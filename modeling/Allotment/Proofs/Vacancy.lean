import Allotment.Proofs.Claims
/-!
# The lowest vacancy

What the search in a pool finds, said without the search.  The addresses of an interval
in ascending order (`Interval.addresses`), less those that are claimed, are its vacancies;
the search gives the first of them (`vacancy?_eq_head?`), which is the lowest, and
nothing exactly if every address of the interval is claimed.
-/
namespace Allotment

namespace Interval

/-- The addresses of the interval, ascending. -/
def addresses (s : Interval) : List Address :=
  (List.range' s.first (s.last + 1 - s.first)).map s.family.address

/-- The addresses of the interval that are not claimed, ascending. -/
def vacancies (s : Interval) (claims : Claims) : List Address :=
  s.addresses.filter fun a => !claims.contains a

theorem value_address_of_le {s : Interval} {n : Nat} (h : n ≤ s.last) :
    (s.family.address n).value = n := by
  rw [Address.value_address, Nat.mod_eq_of_lt (Nat.lt_of_le_of_lt h s.last_lt)]

theorem mem_addresses {s : Interval} {a : Address} : a ∈ s.addresses ↔ a ∈ s := by
  rw [addresses, List.mem_map, mem_iff]
  constructor
  · rintro ⟨n, hn, rfl⟩
    rw [List.mem_range'_1] at hn
    have hle : n ≤ s.last := by omega
    rw [Address.family_address, value_address_of_le hle]
    exact ⟨rfl, hn.1, hle⟩
  · rintro ⟨hfamily, hfirst, hlast⟩
    refine ⟨a.value, ?_, ?_⟩
    · rw [List.mem_range'_1]
      omega
    · rw [← hfamily, Address.address_value]

theorem pairwise_addresses (s : Interval) : s.addresses.Pairwise fun a b => a.value < b.value := by
  rw [addresses, List.pairwise_map]
  refine (List.pairwise_lt_range' 1 (by decide)).imp_of_mem ?_
  intro m n hm hn hlt
  rw [List.mem_range'_1] at hm hn
  rw [value_address_of_le (by omega), value_address_of_le (by omega)]
  exact hlt

theorem nodup_addresses (s : Interval) : s.addresses.Nodup :=
  s.pairwise_addresses.imp fun hlt heq => Nat.ne_of_lt hlt (congrArg Address.value heq)

theorem mem_vacancies {s : Interval} {claims : Claims} {a : Address} :
    a ∈ s.vacancies claims ↔ a ∈ s ∧ a ∉ claims := by
  rw [vacancies, List.mem_filter, mem_addresses, ← Claims.contains_iff]
  simp

theorem pairwise_vacancies (s : Interval) (claims : Claims) :
    (s.vacancies claims).Pairwise fun a b => a.value < b.value :=
  s.pairwise_addresses.filter _

theorem nodup_vacancies (s : Interval) (claims : Claims) : (s.vacancies claims).Nodup :=
  s.nodup_addresses.filter _

theorem vacancies_congr {claims claims' : Claims} (h : ∀ a, a ∈ claims' ↔ a ∈ claims) (s : Interval) :
    s.vacancies claims' = s.vacancies claims := by
  unfold vacancies
  apply List.filter_congr
  intro a _
  have hsame : claims'.contains a = claims.contains a := by
    rw [Bool.eq_iff_iff, Claims.contains_iff, Claims.contains_iff, h]
  rw [hsame]

/-- An address that is claimed besides is no vacancy any more, and nothing else changes. -/
theorem vacancies_of_mem_iff {s : Interval} {claims claims' : Claims} {a : Address}
    (h : ∀ b, b ∈ claims' ↔ b = a ∨ b ∈ claims) :
    s.vacancies claims' = (s.vacancies claims).filter (· != a) := by
  unfold vacancies
  rw [List.filter_filter]
  apply List.filter_congr
  intro b _
  have hclaimed : claims'.contains b = (b == a || claims.contains b) := by
    rw [Bool.eq_iff_iff, Claims.contains_iff, h, Bool.or_eq_true, beq_iff_eq, Claims.contains_iff]
  rw [hclaimed, Bool.not_or]
  rfl

/-- **Once the first vacancy is claimed, the others are left.** -/
theorem vacancies_of_claimed {s : Interval} {claims claims' : Claims} {a : Address} {rest : List Address}
    (hv : s.vacancies claims = a :: rest) (h : ∀ b, b ∈ claims' ↔ b = a ∨ b ∈ claims) :
    s.vacancies claims' = rest := by
  have hnodup := s.nodup_vacancies claims
  rw [hv, List.nodup_cons] at hnodup
  rw [vacancies_of_mem_iff h, hv, List.filter_cons_of_neg (by simp)]
  apply List.filter_eq_self.2
  intro b hb
  have hne : b ≠ a := fun heq => hnodup.1 (heq ▸ hb)
  simpa using hne

/-! ## The search -/

/-- The search up from a number finds what a search through the list of all numbers finds. -/
theorem firstVacant?_eq_find? {family : Family} {claims : Claims} {last candidate : Nat}
    (h : candidate ≤ last) :
    firstVacant? family claims last candidate =
      (List.range' candidate (last + 1 - candidate)).find? fun n =>
        !claims.contains (family.address n) := by
  fun_induction firstVacant? family claims last candidate with
  | case1 candidate hfree =>
    rw [show last + 1 - candidate = (last - candidate) + 1 by omega, List.range'_succ]
    symm
    apply List.find?_cons_of_pos
    exact hfree
  | case2 candidate hclaimed hlt ih =>
    rw [show last + 1 - candidate = (last + 1 - (candidate + 1)) + 1 by omega, List.range'_succ, ih hlt]
    symm
    apply List.find?_cons_of_neg
    exact hclaimed
  | case3 candidate hclaimed hend =>
    rw [show last + 1 - candidate = 1 by omega, List.range'_one]
    symm
    apply List.find?_cons_of_neg
    exact hclaimed

/-- **The search gives the first vacancy.** -/
theorem vacancy?_eq_head? (s : Interval) (claims : Claims) :
    s.vacancy? claims = (s.vacancies claims).head? := by
  rw [vacancy?, firstVacant?_eq_find? s.first_le_last, vacancies, List.head?_filter, addresses,
    List.find?_map]
  rfl

theorem vacancy?_eq_none_iff {s : Interval} {claims : Claims} :
    s.vacancy? claims = none ↔ ∀ a ∈ s, a ∈ claims := by
  rw [vacancy?_eq_head?, List.head?_eq_none_iff, List.eq_nil_iff_forall_not_mem]
  constructor
  · intro h a ha
    by_contra hfree
    exact h a (mem_vacancies.2 ⟨ha, hfree⟩)
  · intro h a ha
    obtain ⟨hs, hfree⟩ := mem_vacancies.1 ha
    exact hfree (h a hs)

/-- **What the search finds is the lowest vacancy.** -/
theorem vacancy?_eq_some_iff {s : Interval} {claims : Claims} {a : Address} :
    s.vacancy? claims = some a ↔
      a ∈ s ∧ a ∉ claims ∧ ∀ b ∈ s, b ∉ claims → a.value ≤ b.value := by
  have hsorted := s.pairwise_vacancies claims
  have hmem : ∀ b, b ∈ s.vacancies claims ↔ b ∈ s ∧ b ∉ claims := fun b => mem_vacancies
  rw [vacancy?_eq_head?]
  cases hv : s.vacancies claims with
  | nil =>
    constructor
    · intro h
      cases h
    · rintro ⟨ha, hfree, -⟩
      have hnil := (hmem a).2 ⟨ha, hfree⟩
      rw [hv] at hnil
      cases hnil
  | cons first rest =>
    rw [hv] at hsorted hmem
    rw [List.pairwise_cons] at hsorted
    have hleast : ∀ b ∈ first :: rest, first.value ≤ b.value := by
      intro b hb
      rcases List.mem_cons.1 hb with rfl | hb
      · exact Nat.le_refl _
      · exact Nat.le_of_lt (hsorted.1 b hb)
    obtain ⟨hfirst, hfree⟩ := (hmem first).1 List.mem_cons_self
    rw [List.head?_cons, Option.some.injEq]
    constructor
    · rintro rfl
      exact ⟨hfirst, hfree, fun b hb hbfree => hleast b ((hmem b).2 ⟨hb, hbfree⟩)⟩
    · rintro ⟨ha, hafree, hle⟩
      have hfamily : first.family = a.family := (mem_iff.1 hfirst).1.trans (mem_iff.1 ha).1.symm
      exact Address.ext_value hfamily
        (Nat.le_antisymm (hleast a ((hmem a).2 ⟨ha, hafree⟩)) (hle first hfirst hfree))

end Interval

end Allotment
