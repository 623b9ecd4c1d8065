import Allotment.Proofs.Extent
import Allotment.Proofs.Growth
/-!
# Reading back

What becomes of the text that a binding stores.  It is read as the address that was bound
and as no other (`Address.text_injective`): as a claim it adds that address to what the
other services claim (`Claims.ofServices_bind`), and as both ends of a range it describes
that address alone (`Pool.interval_range_text`).
-/
namespace Allotment

open Text

namespace Claims

theorem eq_of_mem_iff {c c' : Claims} (h : ∀ a, a ∈ c ↔ a ∈ c') : c = c' := by
  cases c
  cases c'
  exact congrArg mk (Std.ExtTreeSet.ext_mem fun {a} => h a)

theorem claimOf?_bind (s : Service) (id : String) (a : Address) : claimOf? (s.bind id a.text) = some a :=
  claimOf?_of_label (s.address?_bind id a.text)

/-- **A bound service claims its address besides what the others claim.** -/
theorem ofServices_bind (a : Address) (s : Service) (id : String) (before after : List Service) :
    ofServices (before ++ s.bind id a.text :: after) = (ofServices (before ++ after)).insert a := by
  apply eq_of_mem_iff
  intro b
  rw [mem_insert, mem_ofServices, mem_ofServices]
  simp only [List.mem_append, List.mem_cons]
  constructor
  · rintro ⟨t, ht | rfl | ht, hb⟩
    · exact .inr ⟨t, .inl ht, hb⟩
    · rw [claimOf?_bind, Option.some.injEq] at hb
      exact .inl hb
    · exact .inr ⟨t, .inr ht, hb⟩
  · rintro (rfl | ⟨t, ht | ht, hb⟩)
    · exact ⟨_, .inr (.inl rfl), claimOf?_bind s id a⟩
    · exact ⟨t, .inl ht, hb⟩
    · exact ⟨t, .inr (.inr ht), hb⟩

end Claims

namespace Interval

def single (a : Address) : Interval where
  family := a.family
  first := a.value
  last := a.value
  first_le_last := Nat.le_refl _
  last_lt := a.value_lt

theorem contains_single_iff {a b : Address} : (single a).contains b = true ↔ b = a := by
  refine mem_iff.trans ⟨fun ⟨hfamily, hle, hge⟩ => ?_, ?_⟩
  · exact Address.ext_value hfamily (Nat.le_antisymm hge hle)
  · rintro rfl
    exact ⟨rfl, Nat.le_refl _, Nat.le_refl _⟩

theorem size_single (a : Address) : (single a).size = 1 := by
  simp [size, single, sizeLimit, Family.size]

end Interval

theorem Address.ofText?_trimmed_text (a : Address) : ofText? (trimmed a.text) = some a := by
  rw [ofText?, trimmed, String.toList_ofList, trim_toList_text, ofChars?_chars]

theorem Pool.interval_range_text (a : Address) : (range a.text a.text).interval = .ok (.single a) := by
  have ha := a.ofText?_trimmed_text
  exact interval_range_iff.2 (.closed ha ha rfl (Nat.le_refl _) fun _ => Interval.mem_iff)

/-- **A bound address is read back as itself.**  Its text stands for it and for no other address.  Bound to
a service, it is claimed besides what the other services claim, by the bound service alone it is all that
is claimed, and of the vacancies of a pool it takes itself away and leaves the rest.  As both ends of a
range it describes the interval of that one address. -/
theorem Service.binding_read_back (a : Address) (s : Service) (id : String) :
    (Address.ofText? a.text = some a ∧ ∀ b : Address, b.text = a.text ↔ b = a) ∧
    ((s.bind id a.text).isBound = true ∧ (s.bind id a.text).binding? = some a.text) ∧
    (∀ before after : List Service,
      let claims := Claims.ofServices (before ++ s.bind id a.text :: after)
      claims.contains a = true ∧ claims = (Claims.ofServices (before ++ after)).insert a ∧
        ∀ pool : Interval, pool.vacancies claims =
          (pool.vacancies (Claims.ofServices (before ++ after))).filter (· != a)) ∧
    (∀ b, (Claims.ofServices [s.bind id a.text]).contains b = true ↔ b = a) ∧
    (Pool.range a.text a.text).interval = .ok (.single a) ∧
      (Interval.single a).size = 1 ∧ ∀ b, (Interval.single a).contains b = true ↔ b = a := by
  refine ⟨⟨a.ofText?_text, fun b => ⟨Address.text_injective, congrArg Address.text⟩⟩,
    ⟨s.isBound_bind id a, s.binding?_bind id a⟩, fun before after => ?_, fun b => ?_,
    Pool.interval_range_text a, Interval.size_single a, fun b => Interval.contains_single_iff⟩
  · have hclaims := Claims.ofServices_bind a s id before after
    refine ⟨?_, hclaims, fun pool => ?_⟩
    · rw [hclaims, Claims.contains_iff]
      exact Claims.mem_insert.2 (.inl rfl)
    · rw [hclaims]
      exact Interval.vacancies_of_mem_iff fun b => Claims.mem_insert.trans (or_congr_left eq_comm)
  · have halone := Claims.ofServices_bind a s id [] []
    rw [List.nil_append, List.nil_append] at halone
    rw [halone, Claims.contains_iff, Claims.mem_insert, eq_comm]
    exact or_iff_left (Claims.not_mem_empty b)

/-- Several texts stand for one address, and one of them is written. -/
example :
    Address.ofText? "::ffff:c0a8:101" = some (.v6 0xffffc0a80101#128) ∧
    Address.ofText? "0:0:0:0:0:ffff:192.168.1.1" = some (.v6 0xffffc0a80101#128) ∧
    (Address.v6 0xffffc0a80101#128).text = "::ffff:192.168.1.1" ∧
    (Address.v6 0x20010db8000000000001000000000001#128).text = "2001:db8::1:0:0:1" := by
  decide +kernel

end Allotment
