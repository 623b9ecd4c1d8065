import Allotment.Proofs.AddressText
import Allotment.Proofs.Ownership
import Allotment.Proofs.Registry
/-!
# Growth

What becomes of a service that stays in the registry while reconciliations write to it and
further services arrive under other keys.
It keeps its key, its version only grows, one version stands for one content, and once
it is bound its labels and its address stay (`Service.Precedes`).  A reconciliation writes
a copy that it read, bound to an address.  Such a write grows the registry whatever comes
of it, and it is accepted only over the very service that was read
(`Registry.update_bind_cases`).
-/
namespace Allotment

open Text

namespace Service

/-! ## Bound services -/

theorem binding?_eq_some_iff {s : Service} {address : String} :
    s.binding? = some address ↔ s.isBound = true ∧ s.assigned = some address := by
  rw [binding?, Option.filter_eq_some_iff, and_comm]

theorem binding?_eq_none_iff {s : Service} : s.binding? = none ↔ s.isBound = false := by
  rw [binding?, Option.filter_eq_none_iff]
  constructor
  · intro h
    cases ha : s.assigned with
    | none => rw [isBound, ha]
    | some address => simpa using h address ha
  · intro h _ _
    simp [h]

/-- What is bound to an address counts as bound: the text of an address is not blank. -/
theorem isBound_bind (s : Service) (id : String) (a : Address) : (s.bind id a.text).isBound = true := by
  show (!(trim a.text.toList).isEmpty) = true
  rw [Address.trim_toList_text]
  cases hc : a.chars with
  | nil => exact absurd hc (Address.chars_ne_nil a)
  | cons c cs => rfl

theorem binding?_bind (s : Service) (id : String) (a : Address) :
    (s.bind id a.text).binding? = some a.text :=
  binding?_eq_some_iff.2 ⟨s.isBound_bind id a, rfl⟩

/-- Whether the second service can be what the first has become in the registry. -/
structure Precedes (s t : Service) : Prop where
  key : t.key = s.key
  version : s.version.toNat ≤ t.version.toNat
  /-- A version is used for one content only. -/
  same : s.version = t.version → s = t
  /-- What is bound keeps its address and its labels. -/
  bound : s.isBound = true → t.assigned = s.assigned ∧ t.labels = s.labels

namespace Precedes

variable {s t u : Service}

theorem refl (s : Service) : s.Precedes s := ⟨rfl, Nat.le_refl _, fun _ => rfl, fun _ => ⟨rfl, rfl⟩⟩

theorem isBound (h : s.Precedes t) (hs : s.isBound = true) : t.isBound = true := by
  rw [Service.isBound, (h.bound hs).1]
  exact hs

theorem binding? (h : s.Precedes t) {address : String} (hs : s.binding? = some address) :
    t.binding? = some address := by
  rw [binding?_eq_some_iff] at hs ⊢
  exact ⟨h.isBound hs.1, (h.bound hs.1).1.trans hs.2⟩

theorem trans (h : s.Precedes t) (h' : t.Precedes u) : s.Precedes u := by
  refine ⟨h'.key.trans h.key, Nat.le_trans h.version h'.version, fun hv => ?_, fun hs => ?_⟩
  · have hst : s.version = t.version := by
      apply UInt64.toNat_inj.1
      have hle := h'.version
      rw [← hv] at hle
      exact Nat.le_antisymm h.version hle
    have htu : t.version = u.version := hst.symm.trans hv
    exact (h.same hst).trans (h'.same htu)
  · have ht := h.bound hs
    have hu := h'.bound (h.isBound hs)
    exact ⟨hu.1.trans ht.1, hu.2.trans ht.2⟩

end Precedes

theorem precedes_advanced {s : Service} (h : s.version.toNat + 1 < UInt64.size) :
    s.Precedes s.advanced := by
  have hv := toNat_version_advanced h
  refine ⟨rfl, by omega, fun hsame => ?_, fun _ => ⟨rfl, rfl⟩⟩
  rw [← hsame] at hv
  omega

theorem precedes_bind_advanced {s : Service} (h : s.version.toNat + 1 < UInt64.size)
    (hs : s.isBound = false) (id address : String) : s.Precedes (s.bind id address).advanced := by
  have hv : (s.bind id address).advanced.version.toNat = s.version.toNat + 1 :=
    toNat_version_advanced h
  refine ⟨rfl, by omega, fun hsame => ?_, fun hbound => ?_⟩
  · rw [← hsame] at hv
    omega
  · rw [hs] at hbound
    cases hbound

end Service

namespace Registry

/-- Whether everything stored in the first registry is still there in the second, grown. -/
def Grows (r r' : Registry) : Prop :=
  ∀ key s, r.peek? key = some s → ∃ t, r'.peek? key = some t ∧ s.Precedes t

/-- Whether a service was stored at some time before, to judge by what has become of it. -/
def Remembers (r : Registry) (s : Service) : Prop :=
  ∃ stored, r.peek? s.key = some stored ∧ s.Precedes stored

theorem grows_of_same {r r' : Registry} (h : ∀ k, r'.peek? k = r.peek? k) : r.Grows r' :=
  fun key s hs => ⟨s, (h key).trans hs, .refl s⟩

theorem Grows.refl (r : Registry) : r.Grows r := grows_of_same fun _ => rfl

theorem Grows.trans {r r' r'' : Registry} (h : r.Grows r') (h' : r'.Grows r'') : r.Grows r'' := by
  intro key s hs
  obtain ⟨t, ht, hst⟩ := h key s hs
  obtain ⟨u, hu, htu⟩ := h' key t ht
  exact ⟨u, hu, hst.trans htu⟩

theorem grows_of_put {r r' : Registry} {key : Key} {s t : Service} (hs : r.peek? key = some s)
    (hst : s.Precedes t) (h : ∀ k, r'.peek? k = if key = k then some t else r.peek? k) :
    r.Grows r' := by
  intro k u hu
  by_cases hk : key = k
  · subst hk
    obtain rfl : s = u := Option.some.inj (hs.symm.trans hu)
    exact ⟨t, by rw [h, if_pos rfl], hst⟩
  · exact ⟨u, by rw [h, if_neg hk, hu], .refl u⟩

/-- The registry once a service has arrived.  Where its key is taken, it does not. -/
def arrived (r : Registry) (s : Service) : Registry :=
  match r.peek? s.key with
  | none => r.insert s
  | some _ => r

/-- **An arrival stores a service beside the others**, or is none. -/
theorem arrived_cases (r : Registry) (s : Service) :
    r.arrived s = r ∨ r.peek? s.key = none ∧ r.arrived s = r.insert s := by
  unfold arrived
  cases h : r.peek? s.key with
  | none => exact .inr ⟨rfl, rfl⟩
  | some stored => exact .inl rfl

theorem grows_insert_of_absent {r : Registry} {s : Service} (h : r.peek? s.key = none) :
    r.Grows (r.insert s) := by
  intro key t ht
  have hne : s.key ≠ key := by
    rintro rfl
    rw [h] at ht
    cases ht
  exact ⟨t, by rw [peek?_insert, if_neg hne, ht], .refl t⟩

theorem remembers_of_peek? {r : Registry} (hr : r.Keyed) {key : Key} {s : Service}
    (hs : r.peek? key = some s) : r.Remembers s :=
  ⟨s, by rw [hr key s hs, hs], .refl s⟩

theorem Remembers.grow {r r' : Registry} {s : Service} (h : r.Remembers s) (hg : r.Grows r') :
    r'.Remembers s := by
  obtain ⟨t, ht, hst⟩ := h
  obtain ⟨u, hu, htu⟩ := hg _ t ht
  exact ⟨u, hu, hst.trans htu⟩

/-- **What comes of writing a service that was read unbound and bound since.**  It is refused; or it is
accepted, and then the service is still stored as it was read.  The registry grows in both cases: a
due conflict cannot let an older copy pass. -/
theorem update_bind_cases {r : Registry} (hr : r.Keyed) {n : Nat} (hb : r.Bounded n)
    (hn : n + 1 < UInt64.size) {base : Service} (hbase : r.Remembers base)
    (hunbound : base.isBound = false) (id address : String) :
    r.Grows (r.update (base.bind id address)).2 ∧ (r.update (base.bind id address)).2.Bounded (n + 1) ∧
      ((∃ f, (r.update (base.bind id address)).1 = .error f) ∨
        ((r.update (base.bind id address)).1 = .ok (base.bind id address).advanced ∧
          r.peek? base.key = some base ∧
          (r.update (base.bind id address)).2.peek? base.key =
            some (base.bind id address).advanced)) := by
  obtain ⟨stored, hstored, hprec⟩ := hbase
  have hlast : stored.version.toNat ≤ n := hb _ _ hstored
  have hmoved : stored.advanced.version.toNat = stored.version.toNat + 1 :=
    toNat_advanced_of_bounded hb hn hstored
  have hkey : (base.bind id address).key = base.key := rfl
  rcases update_cases hr (base.bind id address) with
    ⟨f, hf, h⟩ | ⟨f, found, hf, -, hfound, h⟩ | ⟨found, hok, hfound, hv, h⟩
  · exact ⟨grows_of_same h, bounded_same hb (Nat.le_succ n) h, .inl ⟨f, hf⟩⟩
  · rw [hkey, hstored] at hfound
    cases hfound
    rw [hkey] at h
    exact ⟨grows_of_put hstored (Service.precedes_advanced (by omega)) h,
      bounded_put hb (Nat.le_succ n) (by omega) h, .inl ⟨f, hf⟩⟩
  · rw [hkey, hstored] at hfound
    cases hfound
    rw [hkey] at h
    -- past a due conflict the copy would carry a version that is not stored yet
    have hsame : base.version = stored.version := by
      rcases hv with hv | ⟨-, hv⟩
      · exact hv
      · have hle := hprec.version
        have hv : base.version = stored.advanced.version := hv
        rw [hv] at hle
        omega
    obtain rfl : base = stored := hprec.same hsame
    have hadv : (base.bind id address).advanced.version.toNat = base.version.toNat + 1 :=
      Service.toNat_version_advanced (Nat.lt_of_le_of_lt (Nat.succ_le_succ hlast) hn)
    exact ⟨grows_of_put hstored (Service.precedes_bind_advanced (by omega) hunbound id address) h,
      bounded_put hb (Nat.le_succ n) (by omega) h,
      .inr ⟨hok, hstored, by rw [h, if_pos rfl]⟩⟩

end Registry
end Allotment
