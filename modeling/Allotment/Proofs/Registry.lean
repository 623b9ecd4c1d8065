import Allotment.Store.Registry
/-!
# The registry under its calls

What each call leaves under every key.  A registry keeps a service under the service's
own key (`Keyed`), whatever is called.  A write has one of three ends
(`update_cases`): nothing changes, the stored version alone moves on, or the written
service takes the stored one's place, one version later.
-/
namespace Allotment

/-- The service one version later. -/
def Service.advanced (s : Service) : Service := { s with version := s.version + 1 }

namespace Service

theorem key_advanced (s : Service) : s.advanced.key = s.key := rfl

theorem toNat_version_advanced {s : Service} (h : s.version.toNat + 1 < UInt64.size) :
    s.advanced.version.toNat = s.version.toNat + 1 := by
  show (s.version + 1).toNat = s.version.toNat + 1
  rw [UInt64.toNat_add]
  exact Nat.mod_eq_of_lt h

end Service

namespace Registry

/-- Every service is stored under its own key. -/
def Keyed (r : Registry) : Prop := ∀ key s, r.peek? key = some s → s.key = key

theorem getElem?_insert (m : Std.ExtTreeMap Key Service) (key k : Key) (s : Service) :
    (m.insert key s)[k]? = if key = k then some s else m[k]? := by
  rw [Std.ExtTreeMap.getElem?_insert]
  simp only [Std.LawfulEqCmp.compare_eq_iff_eq]

theorem getElem?_erase (m : Std.ExtTreeMap Key Service) (key k : Key) :
    (m.erase key)[k]? = if key = k then none else m[k]? := by
  rw [Std.ExtTreeMap.getElem?_erase]
  simp only [Std.LawfulEqCmp.compare_eq_iff_eq]

/-! ## Insertion and removal -/

theorem key_stamped (r : Registry) (s : Service) : (r.stamped s).key = s.key := rfl

theorem peek?_insert (r : Registry) (s : Service) (k : Key) :
    (r.insert s).peek? k = if s.key = k then some (r.stamped s) else r.peek? k :=
  getElem?_insert r.services s.key k (r.stamped s)

theorem peek?_remove (r : Registry) (key k : Key) :
    (r.remove key).peek? k = if key = k then none else r.peek? k :=
  getElem?_erase r.services key k

/-! ## Reading -/

theorem get_eq_ok_iff {r : Registry} {key : Key} {s : Service} :
    r.get key = .ok s ↔ r.unavailable = false ∧ r.peek? key = some s := by
  unfold get
  cases r.unavailable <;> cases r.peek? key <;> simp

/-- Listing gives what is stored in the namespace and meets the selector. -/
theorem mem_selected {r : Registry} (hr : r.Keyed) {ns selector : String} {s : Service} :
    s ∈ r.selected ns selector ↔
      r.peek? s.key = some s ∧ s.ns = ns ∧ s.selectedBy selector = true := by
  have hstored : s ∈ r.toList ↔ r.peek? s.key = some s := by
    rw [toList, List.mem_map]
    constructor
    · rintro ⟨⟨key, t⟩, hmem, rfl⟩
      have ht : r.peek? key = some t := Std.ExtTreeMap.mem_toList_iff_getElem?_eq_some.1 hmem
      rw [hr key t ht, ht]
    · intro hs
      exact ⟨(s.key, s), Std.ExtTreeMap.mem_toList_iff_getElem?_eq_some.2 hs, rfl⟩
  rw [selected, List.mem_filter, hstored]
  simp

theorem list_of_reachable {r : Registry} (hreach : r.unavailable = false) (ns selector : String) :
    r.list ns selector = .ok (r.selected ns selector) := by
  rw [list, hreach]
  rfl

theorem list_eq_ok {r : Registry} {ns selector : String} {ss : List Service}
    (h : r.list ns selector = .ok ss) : ss = r.selected ns selector := by
  unfold list at h
  split at h
  · cases h
  · exact (Except.ok.inj h).symm

/-! ## Writing -/

/-- **What a write can come to.**  It changes nothing; or it is refused and a due conflict has moved the
stored version on; or it carries the stored version, perhaps as a due conflict has moved it on, and takes
the stored service's place. -/
theorem update_cases {r : Registry} (hr : r.Keyed) (s : Service) :
    (∃ f, (r.update s).1 = .error f ∧ ∀ k, (r.update s).2.peek? k = r.peek? k) ∨
    (∃ f stored, (r.update s).1 = .error f ∧ r.conflictsDue ≠ 0 ∧ r.peek? s.key = some stored ∧
      ∀ k, (r.update s).2.peek? k = if s.key = k then some stored.advanced else r.peek? k) ∨
    (∃ stored, (r.update s).1 = .ok s.advanced ∧ r.peek? s.key = some stored ∧
      (s.version = stored.version ∨ r.conflictsDue ≠ 0 ∧ s.version = stored.advanced.version) ∧
      ∀ k, (r.update s).2.peek? k = if s.key = k then some s.advanced else r.peek? k) := by
  have hcounted : ∀ k, r.counted.peek? k = r.peek? k := fun _ => rfl
  unfold update
  simp only
  cases hu : r.counted.unavailable with
  | true => exact .inl ⟨outage, rfl, hcounted⟩
  | false =>
    simp only [Bool.false_eq_true, if_false]
    cases hp : r.counted.peek? s.key with
    | none => exact .inl ⟨.notFound .service s.key, rfl, hcounted⟩
    | some stored =>
      have hkey : stored.key = s.key := hr s.key stored hp
      simp only [disturbed, overwrite]
      by_cases hdue : r.counted.conflictsDue = 0
      · simp only [hdue, if_true]
        by_cases hv : stored.version = s.version
        · simp only [hv, if_true]
          exact .inr (.inr ⟨stored, rfl, hp, .inl hv.symm, fun k => getElem?_insert _ _ _ _⟩)
        · simp only [hv, if_false]
          exact .inl ⟨_, rfl, hcounted⟩
      · simp only [hdue, if_false]
        by_cases hv : stored.version + 1 = s.version
        · simp only [hv, if_true]
          refine .inr (.inr ⟨stored, rfl, hp, .inr ⟨hdue, hv.symm⟩, fun k => ?_⟩)
          show ((r.services.insert stored.key _).insert s.key s.advanced)[k]? = _
          rw [getElem?_insert, getElem?_insert, hkey]
          split <;> rfl
        · simp only [hv, if_false]
          refine .inr (.inl ⟨_, stored, rfl, hdue, hp, fun k => ?_⟩)
          show (r.services.insert stored.key stored.advanced)[k]? = _
          rw [getElem?_insert, hkey]
          rfl

/-- The registry after a write was accepted: the service as it is stored now takes its place. -/
def written (r : Registry) (s : Service) : Registry :=
  { r.counted with services := r.services.insert s.key s }

theorem peek?_written (r : Registry) (s : Service) (k : Key) :
    (r.written s).peek? k = if s.key = k then some s else r.peek? k :=
  getElem?_insert r.services s.key k s

/-- **What a write of the stored version comes to**: it does not reach the store, or the next due
conflict gets in before it, or it is accepted. -/
theorem update_cases_of_stored {r : Registry} (hr : r.Keyed) {s stored : Service}
    (hs : r.peek? s.key = some stored) (hv : stored.version = s.version) :
    (r.unavailable = true ∧ ∃ f, r.update s = (.error f, r.counted)) ∨
    (r.conflictsDue ≠ 0 ∧ ∃ f, r.update s = (.error f, { r.counted with
      conflictsDue := r.conflictsDue - 1
      services := r.services.insert s.key stored.advanced })) ∨
    r.update s = (.ok s.advanced, r.written s.advanced) := by
  have hs' : r.counted.peek? s.key = some stored := hs
  unfold update
  simp only [hs']
  by_cases hreach : r.counted.unavailable = true
  · rw [if_pos hreach]
    exact .inl ⟨hreach, _, rfl⟩
  · rw [if_neg hreach, disturbed]
    by_cases hdue : r.counted.conflictsDue = 0
    · rw [if_pos hdue]
      simp only [overwrite, hv, if_true]
      exact .inr (.inr rfl)
    · -- the stored version is one ahead of what the write carries
      have hahead : ¬stored.version + 1 = s.version := by
        rw [hv]
        intro h
        simp at h
      rw [if_neg hdue]
      simp only [overwrite, hahead, if_false, hr s.key stored hs]
      exact .inr (.inl ⟨hdue, _, rfl⟩)

/-- With no conflict due, a write that carries the stored version is accepted. -/
theorem update_of_stored {r : Registry} (hr : r.Keyed) (hreach : r.unavailable = false)
    (hcalm : r.conflictsDue = 0) {s stored : Service} (hs : r.peek? s.key = some stored)
    (hv : stored.version = s.version) :
    r.update s = (.ok s.advanced, r.written s.advanced) := by
  rcases update_cases_of_stored hr hs hv with ⟨haway, -⟩ | ⟨hdue, -⟩ | haccepted
  · rw [hreach] at haway
    cases haway
  · exact absurd hcalm hdue
  · exact haccepted

theorem update_eq_ok {r : Registry} (hr : r.Keyed) {s t : Service} (h : (r.update s).1 = .ok t) :
    ∃ stored, t = s.advanced ∧ r.peek? s.key = some stored ∧
      (s.version = stored.version ∨ r.conflictsDue ≠ 0 ∧ s.version = stored.advanced.version) ∧
      ∀ k, (r.update s).2.peek? k = if s.key = k then some s.advanced else r.peek? k := by
  rcases update_cases hr s with ⟨f, hf, -⟩ | ⟨f, _, hf, -⟩ | ⟨stored, hok, hfound, hv, hk⟩
  · rw [hf] at h; cases h
  · rw [hf] at h; cases h
  · rw [hok] at h
    exact ⟨stored, (Except.ok.inj h).symm, hfound, hv, hk⟩

/-! ## Every service stays under its own key -/

theorem keyed_empty : empty.Keyed := by
  intro key s h
  simp [peek?, empty] at h

theorem keyed_of_put {r r' : Registry} (hr : r.Keyed) {s : Service}
    (h : ∀ k, r'.peek? k = if s.key = k then some s else r.peek? k) : r'.Keyed := by
  intro key t ht
  rw [h] at ht
  split at ht
  · rename_i hk
    cases ht
    exact hk
  · exact hr key t ht

theorem keyed_insert {r : Registry} (hr : r.Keyed) (s : Service) : (r.insert s).Keyed :=
  keyed_of_put (s := r.stamped s) hr (peek?_insert r s)

theorem keyed_remove {r : Registry} (hr : r.Keyed) (key : Key) : (r.remove key).Keyed := by
  intro k t ht
  rw [peek?_remove] at ht
  split at ht
  · cases ht
  · exact hr k t ht

theorem keyed_update {r : Registry} (hr : r.Keyed) (s : Service) : (r.update s).2.Keyed := by
  rcases update_cases hr s with ⟨f, -, h⟩ | ⟨f, stored, -, -, hfound, h⟩ | ⟨stored, -, -, -, h⟩
  · intro key t ht
    rw [h] at ht
    exact hr key t ht
  · have hkey : s.key = stored.advanced.key := (hr _ _ hfound).symm
    rw [hkey] at h
    exact keyed_of_put hr h
  · exact keyed_of_put (s := s.advanced) hr h

/-! ## Versions under a bound -/

/-- No stored version is above `n`. -/
def Bounded (r : Registry) (n : Nat) : Prop := ∀ key s, r.peek? key = some s → s.version.toNat ≤ n

theorem bounded_empty : empty.Bounded 0 := by
  intro key s h
  simp [peek?, empty] at h

theorem bounded_put {r r' : Registry} {n m : Nat} {key : Key} {s : Service} (hb : r.Bounded n)
    (hnm : n ≤ m) (hs : s.version.toNat ≤ m)
    (h : ∀ k, r'.peek? k = if key = k then some s else r.peek? k) : r'.Bounded m := by
  intro k t ht
  rw [h] at ht
  split at ht
  · cases ht
    exact hs
  · exact Nat.le_trans (hb k t ht) hnm

theorem bounded_same {r r' : Registry} {n m : Nat} (hb : r.Bounded n) (hnm : n ≤ m)
    (h : ∀ k, r'.peek? k = r.peek? k) : r'.Bounded m :=
  fun k t ht => Nat.le_trans (hb k t (h k ▸ ht)) hnm

theorem toNat_advanced_of_bounded {r : Registry} {n : Nat} (hb : r.Bounded n)
    (hn : n + 1 < UInt64.size) {key : Key} {s : Service} (hs : r.peek? key = some s) :
    s.advanced.version.toNat = s.version.toNat + 1 :=
  Service.toNat_version_advanced (Nat.lt_of_le_of_lt (Nat.succ_le_succ (hb key s hs)) hn)

theorem toNat_stamped {r : Registry} {n : Nat} (hb : r.Bounded n) (hn : n + 1 < UInt64.size)
    (s : Service) :
    (r.stamped s).version.toNat ≤ n + 1 ∧
      ∀ old, r.peek? s.key = some old → old.version.toNat < (r.stamped s).version.toNat := by
  simp only [stamped]
  cases hp : r.peek? s.key with
  | none => exact ⟨Nat.le_add_left 1 n, fun old h => by cases h⟩
  | some old =>
    have hold := hb _ _ hp
    have hadv : (old.version + 1).toNat = old.version.toNat + 1 := toNat_advanced_of_bounded hb hn hp
    refine ⟨?_, ?_⟩
    · show (old.version + 1).toNat ≤ n + 1
      omega
    · rintro t ht
      cases ht
      show old.version.toNat < (old.version + 1).toNat
      omega

theorem bounded_insert {r : Registry} {n : Nat} (hb : r.Bounded n) (hn : n + 1 < UInt64.size)
    (s : Service) : (r.insert s).Bounded (n + 1) :=
  bounded_put hb (Nat.le_succ n) (toNat_stamped hb hn s).1 (peek?_insert r s)

end Registry
end Allotment
