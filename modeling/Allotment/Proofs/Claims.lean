import Allotment.Proofs.AddressText
import Allotment.Vacancy
/-!
# What is claimed and what is chosen

The claims of some services are the addresses that their labels are read as
(`mem_ofServices`), a label written by `Service.bind` is read as the address that was
bound (`claimOf?_of_label`), and the address taken from a pool is never among the claims
(`not_mem_of_allocate`).
-/
namespace Allotment

open Text

namespace Claims

theorem not_mem_empty (a : Address) : a ∉ (∅ : Claims) := Std.ExtTreeSet.not_mem_empty

theorem mem_insert {c : Claims} {a b : Address} : b ∈ c.insert a ↔ a = b ∨ b ∈ c := by
  show b ∈ c.addresses.insert a ↔ a = b ∨ b ∈ c.addresses
  rw [Std.ExtTreeSet.mem_insert, Std.LawfulEqCmp.compare_eq_iff_eq]

theorem contains_iff {c : Claims} {a : Address} : c.contains a = true ↔ a ∈ c :=
  Std.ExtTreeSet.contains_iff_mem

theorem mem_foldl_insert {as : List Address} {c : Claims} {a : Address} :
    a ∈ as.foldl insert c ↔ a ∈ c ∨ a ∈ as := by
  induction as generalizing c with
  | nil => simp
  | cons b as ih =>
    rw [List.foldl_cons, ih, mem_insert, List.mem_cons]
    constructor
    · rintro ((rfl | h) | h)
      · exact .inr (.inl rfl)
      · exact .inl h
      · exact .inr (.inr h)
    · rintro (h | rfl | h)
      · exact .inl (.inr h)
      · exact .inl (.inl rfl)
      · exact .inr h

theorem mem_ofList {as : List Address} {a : Address} : a ∈ ofList as ↔ a ∈ as := by
  rw [ofList, mem_foldl_insert]
  simp [not_mem_empty]

/-- **What is claimed is what some label is read as.** -/
theorem mem_ofServices {ss : List Service} {a : Address} :
    a ∈ ofServices ss ↔ ∃ s ∈ ss, claimOf? s = some a := by
  rw [ofServices, mem_ofList, List.mem_filterMap]

/-- A label claims the address that its text, without the blanks around it, stands for. -/
theorem claimOf?_eq_some_iff {s : Service} {a : Address} :
    claimOf? s = some a ↔
      ∃ label, s.address? = some label ∧ Address.ofChars? .strict (trim label.toList) = some a := by
  cases hs : s.address? with
  | none => simp [claimOf?, hs]
  | some label =>
    rw [claimOf?, hs]
    simp only [Option.map_some, readLabel, Option.some.injEq, exists_eq_left']
    split
    · rename_i hread
      split at hread
      · cases hread
      · split at hread
        · rename_i ha
          rw [ha]
          cases hread
          rfl
        · cases hread
    · rename_i hread
      cases ha : Address.ofChars? .strict (trim label.toList) with
      | none => simp
      | some b =>
        have hfull : (trim label.toList).isEmpty = false := by
          cases hb : trim label.toList with
          | nil => rw [hb] at ha; cases ha
          | cons c cs => rfl
        rw [hfull, ha] at hread
        exact absurd rfl (hread b)

/-- The label that binding writes is read as the address that was bound. -/
theorem claimOf?_of_label {s : Service} {a : Address} (h : s.address? = some a.text) :
    claimOf? s = some a :=
  claimOf?_eq_some_iff.2 ⟨a.text, h, by rw [Address.trim_toList_text, Address.ofChars?_chars]⟩

end Claims

/-- The number that the search stops at is not claimed. -/
theorem not_mem_of_firstVacant? {family : Family} {claims : Claims} {last candidate n : Nat}
    (h : firstVacant? family claims last candidate = some n) : family.address n ∉ claims := by
  fun_induction firstVacant? family claims last candidate with
  | case1 candidate hfree =>
    cases h
    rw [← Claims.contains_iff]
    simpa using hfree
  | case2 candidate hclaimed hlt ih => exact ih h
  | case3 candidate hclaimed hend => cases h

/-- **The address taken from a pool is not claimed.** -/
theorem NamedPool.not_mem_of_allocate {p : NamedPool} {claims : Claims} {a : Address}
    (h : p.allocate claims = .ok a) : a ∉ claims := by
  rw [NamedPool.allocate, Pool.vacancy?] at h
  cases hi : p.pool.interval with
  | error f => rw [hi] at h; cases h
  | ok s =>
    rw [hi] at h
    simp only [Except.map, Interval.vacancy?] at h
    cases hv : firstVacant? s.family claims s.last s.first with
    | none => rw [hv] at h; cases h
    | some n =>
      rw [hv] at h
      cases h
      exact not_mem_of_firstVacant? hv

end Allotment
