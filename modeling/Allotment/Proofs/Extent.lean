import Mathlib.SetTheory.Cardinal.Finite
import Allotment.Proofs.Vacancy
/-!
# Extent

Which intervals pools describe, and what an interval's numbers say of its addresses.  The
two ends of a range decide alone what it describes (`RangeVerdict`).  An interval is known
by its addresses (`Interval.eq_of_mem_iff`), and its numbers are an exact picture of them
(`Interval.Exact`): in the same order, each once and none missing, and counted by the size,
except that the whole of the wide family counts one less.
-/
namespace Allotment

open Text

/-- All addresses of a family. -/
def Family.whole (f : Family) : Interval where
  family := f
  first := 0
  last := f.size - 1
  first_le_last := Nat.zero_le _
  last_lt := by cases f <;> decide

/-- What the texts of two ends decide for the range between them. -/
inductive RangeVerdict (first last : String) : Except PoolFault Interval → Prop where
  | malformedFirst : Address.ofText? (trimmed first) = none →
      RangeVerdict first last (.error (.malformedAddress first))
  | malformedLast {a : Address} : Address.ofText? (trimmed first) = some a →
      Address.ofText? (trimmed last) = none → RangeVerdict first last (.error (.malformedAddress last))
  | mixed {a b : Address} : Address.ofText? (trimmed first) = some a →
      Address.ofText? (trimmed last) = some b → a.family ≠ b.family →
      RangeVerdict first last (.error (.mixedFamilies first last))
  | inverted {a b : Address} : Address.ofText? (trimmed first) = some a →
      Address.ofText? (trimmed last) = some b → a.family = b.family → b.value < a.value →
      RangeVerdict first last (.error (.inverted first last))
  | closed {a b : Address} {s : Interval} : Address.ofText? (trimmed first) = some a →
      Address.ofText? (trimmed last) = some b → a.family = b.family → a.value ≤ b.value →
      (∀ x, s.contains x = true ↔ x.family = a.family ∧ a.value ≤ x.value ∧ x.value ≤ b.value) →
      RangeVerdict first last (.ok s)

namespace Address

theorem rank_address {f : Family} {n : Nat} (h : n < f.size) :
    (f.address n).rank = (Family.address f 0).rank + n := by
  cases f with
  | v4 =>
    have hv := value_address .v4 n
    rw [Nat.mod_eq_of_lt h] at hv
    simpa [rank, Family.address, value] using hv
  | v6 =>
    have hv := value_address .v6 n
    rw [Nat.mod_eq_of_lt h] at hv
    simpa [rank, Family.address, value] using hv

/-- **Within a family addresses are ordered as their numbers are.** -/
theorem compare_address {f : Family} {m n : Nat} (hm : m < f.size) (hn : n < f.size) :
    compare (f.address m) (f.address n) = compare m n := by
  show compare (f.address m).rank (f.address n).rank = compare m n
  rw [rank_address hm, rank_address hn]
  rcases Nat.lt_trichotomy m n with h | rfl | h
  · rw [Nat.compare_eq_lt.2 h, Nat.compare_eq_lt]
    omega
  · rw [Nat.compare_eq_eq.2 rfl, Nat.compare_eq_eq.2 rfl]
  · rw [Nat.compare_eq_gt.2 h, Nat.compare_eq_gt]
    omega

end Address

namespace Interval

variable {s s' : Interval}

theorem address_mem {n : Nat} (hfirst : s.first ≤ n) (hlast : n ≤ s.last) : s.family.address n ∈ s := by
  rw [mem_iff, Address.family_address, value_address_of_le hlast]
  exact ⟨rfl, hfirst, hlast⟩

theorem firstAddress_mem (s : Interval) : s.firstAddress ∈ s := address_mem (Nat.le_refl _) s.first_le_last

theorem lastAddress_mem (s : Interval) : s.lastAddress ∈ s := address_mem s.first_le_last (Nat.le_refl _)

theorem within_of_mem_imp (h : ∀ x, x ∈ s → x ∈ s') :
    s.family = s'.family ∧ s'.first ≤ s.first ∧ s.last ≤ s'.last := by
  obtain ⟨hfamily, hfirst, -⟩ := mem_iff.1 (h _ s.firstAddress_mem)
  obtain ⟨-, -, hlast⟩ := mem_iff.1 (h _ s.lastAddress_mem)
  rw [firstAddress, Address.family_address] at hfamily
  rw [firstAddress, value_address_of_le s.first_le_last] at hfirst
  rw [lastAddress, value_address_of_le (Nat.le_refl _)] at hlast
  exact ⟨hfamily, hfirst, hlast⟩

/-- **An interval is known by its addresses.** -/
theorem eq_of_mem_iff (h : ∀ x, x ∈ s ↔ x ∈ s') : s = s' := by
  obtain ⟨hfamily, hfirst, hlast⟩ := within_of_mem_imp fun x => (h x).1
  obtain ⟨-, hfirst', hlast'⟩ := within_of_mem_imp fun x => (h x).2
  have hsame : s.family = s'.family ∧ s.first = s'.first ∧ s.last = s'.last :=
    ⟨hfamily, Nat.le_antisymm hfirst' hfirst, Nat.le_antisymm hlast hlast'⟩
  cases s
  cases s'
  simpa using hsame

/-- What the numbers of an interval say of its addresses. -/
structure Exact (s : Interval) : Prop where
  ordered : s.first ≤ s.last
  fits : s.last < s.family.size
  injective : ∀ m n, s.first ≤ m → m ≤ s.last → s.first ≤ n → n ≤ s.last →
    s.family.address m = s.family.address n → m = n
  monotone : ∀ m n, s.first ≤ m → m ≤ s.last → s.first ≤ n → n ≤ s.last →
    compare (s.family.address m) (s.family.address n) = compare m n
  onto : ∀ x, s.contains x = true ↔ ∃ n, s.first ≤ n ∧ n ≤ s.last ∧ s.family.address n = x
  firstAddress : s.contains s.firstAddress = true
  lastAddress : s.contains s.lastAddress = true
  size : s ≠ Family.v6.whole → s.size = Nat.card {x // s.contains x = true}
  size_whole : s = Family.v6.whole →
    s.size + 1 = Nat.card {x // s.contains x = true} ∧ s.size = Family.v6.size - 1

theorem contains_iff_exists {x : Address} :
    s.contains x = true ↔ ∃ n, s.first ≤ n ∧ n ≤ s.last ∧ s.family.address n = x := by
  constructor
  · intro h
    obtain ⟨hfamily, hfirst, hlast⟩ := mem_iff.1 h
    exact ⟨x.value, hfirst, hlast, by rw [← hfamily, Address.address_value]⟩
  · rintro ⟨n, hfirst, hlast, rfl⟩
    exact address_mem hfirst hlast

/-- **An interval has as many addresses as numbers.** -/
theorem card_contains (s : Interval) : Nat.card {x // s.contains x = true} = s.last + 1 - s.first := by
  have hmem : ∀ x, x ∈ s.addresses.toFinset ↔ s.contains x = true := fun x => by
    rw [List.mem_toFinset]
    exact mem_addresses
  rw [Nat.subtype_card s.addresses.toFinset hmem, List.toFinset_card_of_nodup s.nodup_addresses, addresses,
    List.length_map, List.length_range']

theorem eq_whole_of_sizeLimit_lt (h : sizeLimit < s.last + 1 - s.first) : s = Family.v6.whole := by
  have hlast := s.last_lt
  have hnarrow : Family.v4.size ≤ sizeLimit := by decide
  have hwide : sizeLimit = Family.v6.size - 1 := rfl
  obtain ⟨family, first, last, hle, hlt⟩ := s
  simp only at h hlast
  cases family with
  | v4 => omega
  | v6 =>
    obtain rfl : first = 0 := by omega
    obtain rfl : last = Family.v6.size - 1 := by omega
    rfl

/-- **Every interval is exact.** -/
theorem exact (s : Interval) : s.Exact where
  ordered := s.first_le_last
  fits := s.last_lt
  injective m n _ hm _ hn h := by
    rw [← value_address_of_le hm, h, value_address_of_le hn]
  monotone m n _ hm _ hn :=
    Address.compare_address (Nat.lt_of_le_of_lt hm s.last_lt) (Nat.lt_of_le_of_lt hn s.last_lt)
  onto _ := contains_iff_exists
  firstAddress := s.firstAddress_mem
  lastAddress := s.lastAddress_mem
  size h := by
    have hle := s.first_le_last
    have hlimit : ¬sizeLimit < s.last + 1 - s.first := fun hlt => h (eq_whole_of_sizeLimit_lt hlt)
    rw [card_contains, Interval.size]
    omega
  size_whole h := by
    subst h
    rw [card_contains]
    exact ⟨by decide, by decide⟩

end Interval

namespace Pool

theorem rangeEnd_of_none {s : String} (h : Address.ofText? (trimmed s) = none) :
    rangeEnd s = .error (.malformedAddress s) := by
  rw [Address.ofText?, trimmed, String.toList_ofList] at h
  simp only [rangeEnd, h]

theorem rangeEnd_of_some {s : String} {a : Address} (h : Address.ofText? (trimmed s) = some a) :
    rangeEnd s = .ok a := by
  rw [Address.ofText?, trimmed, String.toList_ofList] at h
  simp only [rangeEnd, h]

theorem verdict_range (first last : String) : RangeVerdict first last (range first last).interval := by
  rw [interval, rangeInterval]
  cases ha : Address.ofText? (trimmed first) with
  | none =>
    rw [rangeEnd_of_none ha]
    exact .malformedFirst ha
  | some a =>
    rw [rangeEnd_of_some ha]
    cases hb : Address.ofText? (trimmed last) with
    | none =>
      rw [rangeEnd_of_none hb]
      exact .malformedLast ha hb
    | some b =>
      rw [rangeEnd_of_some hb]
      simp only [Except.bind]
      split
      · rename_i hf
        split
        · rename_i hle
          exact .closed ha hb hf.symm hle fun x => Interval.mem_iff
        · rename_i hlt
          exact .inverted ha hb hf.symm (Nat.lt_of_not_le hlt)
      · rename_i hf
        exact .mixed ha hb (Ne.symm hf)

/-- **A range describes what its verdict says, and nothing else.** -/
theorem interval_range_iff {first last : String} {v : Except PoolFault Interval} :
    (range first last).interval = v ↔ RangeVerdict first last v := by
  constructor
  · rintro rfl
    exact verdict_range first last
  · intro h
    rw [interval, rangeInterval]
    cases h with
    | malformedFirst ha =>
      rw [rangeEnd_of_none ha]
      rfl
    | malformedLast ha hb =>
      rw [rangeEnd_of_some ha, rangeEnd_of_none hb]
      rfl
    | mixed ha hb hf =>
      rw [rangeEnd_of_some ha, rangeEnd_of_some hb]
      simp only [Except.bind]
      rw [dif_neg (Ne.symm hf)]
    | inverted ha hb hf hlt =>
      rw [rangeEnd_of_some ha, rangeEnd_of_some hb]
      simp only [Except.bind]
      rw [dif_pos hf.symm, dif_neg (Nat.not_le_of_lt hlt)]
    | closed ha hb hf hle hmem =>
      rw [rangeEnd_of_some ha, rangeEnd_of_some hb]
      simp only [Except.bind]
      rw [dif_pos hf.symm, dif_pos hle, Except.ok.injEq]
      exact Interval.eq_of_mem_iff fun x => Interval.mem_iff.trans (hmem x).symm

/-- **A range is the closed interval between its ends, and every pool's interval is exact.**  A range
describes an interval exactly if both ends are addresses of one family in ascending order; the interval
is what lies between them, and otherwise the first fault that applies is reported (`RangeVerdict`).  Of
every interval that a range or a block describes the numbers are those of its addresses
(`Interval.Exact`). -/
theorem interval_exact :
    (∀ first last : String,
      (∀ v, (range first last).interval = v ↔ RangeVerdict first last v) ∧
      ((∃ s, (range first last).interval = .ok s) ↔
        ∃ a b, Address.ofText? (trimmed first) = some a ∧ Address.ofText? (trimmed last) = some b ∧
          a.family = b.family ∧ a.value ≤ b.value)) ∧
    ∀ (p : Pool) (s : Interval), p.interval = .ok s → s.Exact := by
  refine ⟨fun first last => ⟨fun v => interval_range_iff, ?_⟩, fun p s _ => s.exact⟩
  constructor
  · rintro ⟨s, hs⟩
    cases interval_range_iff.1 hs with
    | closed ha hb hf hle _ => exact ⟨_, _, ha, hb, hf, hle⟩
  · rintro ⟨a, b, ha, hb, hf, hle⟩
    have hb' := b.value_lt
    rw [← hf] at hb'
    exact ⟨⟨a.family, a.value, b.value, hle, hb'⟩,
      interval_range_iff.2 (.closed ha hb hf hle fun x => Interval.mem_iff)⟩

/-- The ends of both address spaces, and the one interval whose size is not exact. -/
example :
    (range "255.255.255.255" " 255.255.255.255 ").interval.map Interval.size = .ok 1 ∧
    (range "0.0.0.0" "255.255.255.255").interval = .ok Family.v4.whole ∧
    (range "::" "ffff:ffff:ffff:ffff:ffff:ffff:ffff:ffff").interval = .ok Family.v6.whole ∧
    (range "10.0.0.5" "fd00::1").interval = .error (.mixedFamilies "10.0.0.5" "fd00::1") ∧
    (range "10.0.0.5" "10.0.0.1").interval = .error (.inverted "10.0.0.5" "10.0.0.1") := by
  decide +kernel

end Pool

end Allotment
