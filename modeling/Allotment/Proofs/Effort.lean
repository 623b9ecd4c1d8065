import Allotment.Proofs.Census
import Allotment.Proofs.Walk
/-!
# The effort of a search

How many numbers a search looks at.  It looks at consecutive ones (`Walk.looked_eq`), and
goes on from none that is not claimed (`Walk.exists_before`).  Different numbers of an
interval are different addresses, so each number that the search goes on from costs a
claim of its own, and however wide the interval is, the claims in it bound the walk
(`Walk.length_le_claimed`).
-/
namespace Allotment

namespace Interval

variable {s : Interval} {claims : Claims} {a : Address}

/-- The claimed addresses of the interval, ascending. -/
def claimed (s : Interval) (claims : Claims) : List Address := claims.toList.filter s.contains

theorem mem_claimed : a ∈ s.claimed claims ↔ a ∈ claims ∧ a ∈ s := by
  rw [claimed, List.mem_filter, Claims.mem_toList]
  rfl

theorem length_claimed_le (s : Interval) (claims : Claims) : (s.claimed claims).length ≤ claims.size := by
  rw [← claims.length_toList]
  exact List.length_filter_le _ _

theorem card_claimed (s : Interval) (claims : Claims) :
    Nat.card {a // s.contains a = true ∧ claims.contains a = true} = (s.claimed claims).length := by
  have hnodup : (s.claimed claims).Nodup := claims.nodup_toList.filter _
  have hmem : ∀ a, a ∈ (s.claimed claims).toFinset ↔ s.contains a = true ∧ claims.contains a = true :=
    fun a => by rw [List.mem_toFinset, mem_claimed, Claims.contains_iff, and_comm]; rfl
  rw [Nat.subtype_card _ hmem, List.toFinset_card_of_nodup hnodup]

end Interval

namespace Walk

variable {family : Family} {claims : Claims} {last n : Nat} {looked : List Nat} {result : Option Nat}

/-- **The numbers that are looked at follow one another.** -/
theorem looked_eq (h : Walk family claims last n looked result) : looked = List.range' n looked.length := by
  induction h with
  | found _ => rfl
  | spent _ => rfl
  | on _ _ _ ih => rw [List.length_cons, List.range'_succ, ← ih]

/-- **A walk goes on from claimed addresses only.** -/
theorem exists_before (h : Walk family claims last n looked result) :
    ∃ before m, looked = before ++ [m] ∧ ∀ k ∈ before, family.address k ∈ claims := by
  induction h with
  | found _ => exact ⟨[], _, rfl, by simp⟩
  | spent _ => exact ⟨[], _, rfl, by simp⟩
  | @on n _ _ hclaimed _ _ ih =>
    obtain ⟨before, m, rfl, hbefore⟩ := ih
    exact ⟨n :: before, m, rfl, List.forall_mem_cons.2 ⟨hclaimed, hbefore⟩⟩

variable {s : Interval}

theorem mem_of_looked (h : Walk s.family claims s.last s.first looked result) :
    ∀ n ∈ looked, s.family.address n ∈ s := by
  intro n hn
  obtain ⟨hfirst, hlast⟩ := h.within s.first_le_last n hn
  exact Interval.address_mem hfirst hlast

/-- **No address is looked at twice.** -/
theorem nodup_addresses (h : Walk s.family claims s.last s.first looked result) :
    (looked.map s.family.address).Nodup := by
  have hlooked : looked.Nodup := by
    rw [h.looked_eq]
    exact List.nodup_range'
  -- the numbers can be told from their addresses only where none of their bits is lost
  refine hlooked.map_on fun m hm n hn heq => ?_
  obtain ⟨-, hm⟩ := h.within s.first_le_last m hm
  obtain ⟨-, hn⟩ := h.within s.first_le_last n hn
  rw [← Interval.value_address_of_le hm, heq, Interval.value_address_of_le hn]

/-- **Each step of a walk costs a claim.** -/
theorem length_le_claimed (h : Walk s.family claims s.last s.first looked result) :
    looked.length ≤ (s.claimed claims).length + 1 := by
  have hnodup := h.nodup_addresses
  have hmem := h.mem_of_looked
  obtain ⟨before, m, rfl, hbefore⟩ := h.exists_before
  rw [List.map_append] at hnodup
  have hsub : before.map s.family.address ⊆ s.claimed claims := by
    intro a ha
    obtain ⟨k, hk, rfl⟩ := List.mem_map.1 ha
    exact Interval.mem_claimed.2 ⟨hbefore k hk, hmem k (List.mem_append_left _ hk)⟩
  have hle := hnodup.of_append_left.length_le_of_subset hsub
  rw [List.length_map] at hle
  rw [List.length_append, List.length_singleton]
  exact Nat.succ_le_succ hle

theorem length_le_card (h : Walk s.family claims s.last s.first looked result) :
    looked.length ≤ Nat.card {a // s.contains a = true} := by
  have hsub : looked.map s.family.address ⊆ s.addresses := by
    intro a ha
    obtain ⟨n, hn, rfl⟩ := List.mem_map.1 ha
    exact Interval.mem_addresses.2 (h.mem_of_looked n hn)
  have hle := h.nodup_addresses.length_le_of_subset hsub
  rwa [List.length_map, Interval.addresses, List.length_map, List.length_range', ← s.card_contains] at hle

end Walk

/-- **A search is bounded by the claims, however wide the pool is.**  The search fails if and as the pool
describes no interval.  Otherwise it walks up the interval to an end.  It looks at no more addresses than
one and the claimed ones of the interval, so at no more than one and all the claims, and at no more than
the interval has; each of them lies in the interval, and none is looked at twice. -/
theorem Pool.search_bounded_by_claims (p : Pool) (claims : Claims) :
    match p.interval with
    | .error reason => p.vacancy? claims = .error reason
    | .ok s => (∃ looked result, Walk s.family claims s.last s.first looked result) ∧
      ∀ looked result, Walk s.family claims s.last s.first looked result →
        p.vacancy? claims = .ok (result.map s.family.address) ∧
        looked.length ≤ Nat.card {a // s.contains a = true ∧ claims.contains a = true} + 1 ∧
        looked.length ≤ claims.size + 1 ∧
        looked.length ≤ Nat.card {a // s.contains a = true} ∧
        (∀ n ∈ looked, s.contains (s.family.address n) = true) ∧
        (looked.map s.family.address).Nodup := by
  cases hp : p.interval with
  | error reason => simp [Pool.vacancy?, hp, Except.map]
  | ok s =>
    obtain ⟨looked, hwalk⟩ := Walk.of_firstVacant? s.family claims s.first_le_last
    refine ⟨⟨looked, _, hwalk⟩, fun looked result h => ⟨?_, ?_, ?_, h.length_le_card, h.mem_of_looked,
      h.nodup_addresses⟩⟩
    · rw [h.result_eq s.first_le_last]
      simp [Pool.vacancy?, hp, Except.map, Interval.vacancy?]
    · rw [Interval.card_claimed]
      exact h.length_le_claimed
    · exact h.length_le_claimed.trans (Nat.succ_le_succ (s.length_claimed_le claims))

/-- In the widest pool of all, with two claims, three addresses are looked at. -/
example :
    let claims : Claims := .ofList [.v6 1, .v6 2, .v4 3]
    (Pool.cidr "::/0").vacancy? claims = .ok (some (.v6 3)) ∧
      Walk .v6 claims (Family.v6.size - 1) 1 [1, 2, 3] (some 3) := by
  refine ⟨by decide +kernel, .on ?_ (by decide) (.on ?_ (by decide) (.found ?_))⟩ <;> decide +kernel

end Allotment
