import Allotment.Proofs.Vacancy
/-!
# The walk

The search as it is walked.  From one number to the next the walk asks only whether it
stands on the last one, by equality, so a step past the last number would never be
noticed.  There is no such step (`Walk.within`): every number that is looked at lies in the
interval, and the address at it keeps all of its bits.
-/
namespace Allotment

/-- A walk up from a number: the numbers that are looked at, and what is found. -/
inductive Walk (family : Family) (claims : Claims) (last : Nat) : Nat → List Nat → Option Nat → Prop where
  | found {n : Nat} : family.address n ∉ claims → Walk family claims last n [n] (some n)
  | spent : family.address last ∈ claims → Walk family claims last last [last] none
  | on {n : Nat} {looked : List Nat} {result : Option Nat} : family.address n ∈ claims → n ≠ last →
      Walk family claims last (n + 1) looked result → Walk family claims last n (n :: looked) result

namespace Walk

variable {family : Family} {claims : Claims} {last n : Nat} {looked : List Nat} {result : Option Nat}

/-- **A walk that starts before the last number never passes it.** -/
theorem within (h : Walk family claims last n looked result) (hn : n ≤ last) :
    ∀ m ∈ looked, n ≤ m ∧ m ≤ last := by
  induction h with
  | found _ =>
    intro m hm
    rw [List.mem_singleton.1 hm]
    exact ⟨Nat.le_refl _, hn⟩
  | spent _ =>
    intro m hm
    rw [List.mem_singleton.1 hm]
    exact ⟨Nat.le_refl _, Nat.le_refl _⟩
  | on _ hne _ ih =>
    intro m hm
    rcases List.mem_cons.1 hm with rfl | hm
    · exact ⟨Nat.le_refl _, hn⟩
    · obtain ⟨hfrom, hto⟩ := ih (Nat.lt_of_le_of_ne hn hne) m hm
      exact ⟨Nat.le_of_succ_le hfrom, hto⟩

theorem result_eq (h : Walk family claims last n looked result) (hn : n ≤ last) :
    result = firstVacant? family claims last n := by
  induction h with
  | found hfree =>
    rw [firstVacant?, if_pos]
    rw [← Claims.contains_iff] at hfree
    simpa using hfree
  | spent hclaimed =>
    rw [firstVacant?, Claims.contains_iff.2 hclaimed]
    simp
  | on hclaimed hne _ ih =>
    have hlt := Nat.lt_of_le_of_ne hn hne
    rw [ih hlt]
    conv => rhs; rw [firstVacant?, Claims.contains_iff.2 hclaimed]
    simp [hlt]

/-- **The search is a walk.** -/
theorem of_firstVacant? (family : Family) (claims : Claims) {last n : Nat} (hn : n ≤ last) :
    ∃ looked, Walk family claims last n looked (firstVacant? family claims last n) := by
  fun_induction firstVacant? family claims last n with
  | case1 n hfree =>
    refine ⟨[n], .found ?_⟩
    rw [← Claims.contains_iff]
    simpa using hfree
  | case2 n hclaimed hlt ih =>
    obtain ⟨looked, hwalk⟩ := ih hlt
    refine ⟨n :: looked, .on ?_ (Nat.ne_of_lt hlt) hwalk⟩
    rw [← Claims.contains_iff]
    simpa using hclaimed
  | case3 n hclaimed hend =>
    obtain rfl : n = last := Nat.le_antisymm hn (Nat.le_of_not_lt hend)
    refine ⟨[n], .spent ?_⟩
    rw [← Claims.contains_iff]
    simpa using hclaimed

end Walk

namespace Interval

theorem vacancy?_eq_some_iff_below {s : Interval} {claims : Claims} {a : Address} :
    s.vacancy? claims = some a ↔ a ∈ s ∧ a ∉ claims ∧ ∀ b ∈ s, b.value < a.value → b ∈ claims := by
  rw [vacancy?_eq_some_iff]
  refine and_congr_right fun _ => and_congr_right fun _ => ?_
  constructor
  · intro hleast b hb hlt
    by_contra hfree
    exact Nat.not_le_of_lt hlt (hleast b hb hfree)
  · intro hbelow b hb hfree
    by_contra hlt
    exact hfree (hbelow b hb (Nat.lt_of_not_le hlt))

end Interval

/-- **The lowest vacancy of a pool, or none at all.**  The search fails if and as the pool describes no
interval.  Otherwise it finds nothing exactly if every address of the interval is claimed, and an address
exactly if that is an unclaimed one of the interval above claimed ones only.  It gets there on a walk of
which no number lies outside of the interval, and the address at each of them keeps that number. -/
theorem Pool.finds_lowest_vacancy (p : Pool) (claims : Claims) :
    match p.interval with
    | .error reason => p.vacancy? claims = .error reason
    | .ok s => ∃ vacancy : Option Address, p.vacancy? claims = .ok vacancy ∧
      (vacancy = none ↔ ∀ a, s.contains a = true → a ∈ claims) ∧
      (∀ a, vacancy = some a ↔ s.contains a = true ∧ a ∉ claims ∧
        ∀ b, s.contains b = true → b.value < a.value → b ∈ claims) ∧
      (∃ looked result, Walk s.family claims s.last s.first looked result) ∧
      ∀ looked result, Walk s.family claims s.last s.first looked result →
        vacancy = result.map s.family.address ∧
        ∀ n ∈ looked, s.first ≤ n ∧ n ≤ s.last ∧ (s.family.address n).value = n := by
  cases hp : p.interval with
  | error reason => simp [Pool.vacancy?, hp, Except.map]
  | ok s =>
    obtain ⟨looked, hwalk⟩ := Walk.of_firstVacant? s.family claims s.first_le_last
    have hfound : p.vacancy? claims = .ok (s.vacancy? claims) := by simp [Pool.vacancy?, hp, Except.map]
    refine ⟨s.vacancy? claims, hfound, Interval.vacancy?_eq_none_iff,
      fun a => Interval.vacancy?_eq_some_iff_below, ⟨looked, _, hwalk⟩, fun looked result h => ⟨?_, ?_⟩⟩
    · rw [h.result_eq s.first_le_last]
      rfl
    · intro n hn
      obtain ⟨hfirst, hlast⟩ := h.within s.first_le_last n hn
      exact ⟨hfirst, hlast, Interval.value_address_of_le hlast⟩

/-- The last addresses of both families are found, and then nothing. -/
example :
    let narrow : Pool := .range "255.255.255.254" "255.255.255.255"
    let wide : Pool := .cidr "ffff:ffff:ffff:ffff:ffff:ffff:ffff:ffff/128"
    narrow.vacancy? (.ofList [.v4 0xfffffffe]) = .ok (some (.v4 0xffffffff)) ∧
      narrow.vacancy? (.ofList [.v4 0xfffffffe, .v4 0xffffffff]) = .ok none ∧
      wide.vacancy? ∅ = .ok (some (.v6 0xffffffffffffffffffffffffffffffff)) ∧
      wide.vacancy? (.ofList [.v6 0xffffffffffffffffffffffffffffffff]) = .ok none := by
  decide +kernel

end Allotment
