import Allotment.Store.Archive
/-!
# The archive under its calls

What reading and creating a document give while the archive can be reached, and what
creating one leaves behind: it never replaces a document (`Opens`).
-/
namespace Allotment.Archive

variable {a : Archive} {key : Key}

theorem get_of_stored (hreach : a.unavailable = false) {d : PoolDocument} (hd : a.peek? key = some d) :
    a.get key = .ok d := by
  simp [get, hreach, hd]

theorem get_of_missing (hreach : a.unavailable = false) (hd : a.peek? key = none) :
    a.get key = .error (.notFound .document key) := by
  simp [get, hreach, hd]

theorem get_eq_ok_iff {d : PoolDocument} :
    a.get key = .ok d ↔ a.unavailable = false ∧ a.peek? key = some d := by
  unfold get
  cases a.unavailable <;> cases a.peek? key <;> simp

theorem eq_notFound_of_get {f : StoreFault} (h : a.get key = .error f) (hf : f.isNotFound = true) :
    f = .notFound .document key := by
  unfold get at h
  split at h
  · cases h
    cases hf
  · cases hd : a.peek? key with
    | some d =>
      rw [hd] at h
      cases h
    | none =>
      rw [hd] at h
      exact (Except.error.inj h).symm

theorem create_of_outage (hreach : a.unavailable = true) (key : Key) :
    a.create key = (.error outage, a.counted) := by
  have hreach' : a.counted.unavailable = true := hreach
  simp [create, hreach']

theorem create_of_stored (hreach : a.unavailable = false) {d : PoolDocument} (hd : a.peek? key = some d) :
    a.create key = (.ok d, a.counted) := by
  have hreach' : a.counted.unavailable = false := hreach
  have hd' : a.counted.peek? key = some d := hd
  simp [create, hreach', hd']

theorem create_of_missing (hreach : a.unavailable = false) (hd : a.peek? key = none) :
    a.create key = (.ok .empty, a.counted.put key .empty) := by
  have hreach' : a.counted.unavailable = false := hreach
  have hd' : a.counted.peek? key = none := hd
  simp [create, hreach', hd']

theorem peek?_put (a : Archive) (key k : Key) (d : PoolDocument) :
    (a.put key d).peek? k = if key = k then some d else a.peek? k := by
  unfold put peek?
  simp only [Std.ExtTreeMap.getElem?_insert, Std.LawfulEqCmp.compare_eq_iff_eq]

/-- **What creating a document leaves**: what is stored stays, and where nothing is stored there may be an
empty document under the key afterwards. -/
theorem peek?_create (a : Archive) (key k : Key) :
    (a.create key).2.peek? k = a.peek? k ∨
      key = k ∧ a.peek? k = none ∧ (a.create key).2.peek? k = some .empty := by
  by_cases hreach : a.unavailable = true
  · rw [create_of_outage hreach]
    exact .inl rfl
  · rw [Bool.not_eq_true] at hreach
    cases hd : a.peek? key with
    | some d =>
      rw [create_of_stored hreach hd]
      exact .inl rfl
    | none =>
      rw [create_of_missing hreach hd, peek?_put]
      by_cases hk : key = k
      · subst hk
        rw [if_pos rfl]
        exact .inr ⟨rfl, hd, rfl⟩
      · rw [if_neg hk]
        exact .inl rfl

theorem fst_create_of_some {d : PoolDocument} (hd : a.peek? key = some d) :
    (a.create key).1 = if a.unavailable then .error outage else .ok d := by
  cases hreach : a.unavailable with
  | true => rw [create_of_outage hreach, if_pos rfl]
  | false =>
    rw [create_of_stored hreach hd]
    rfl

theorem eq_of_create {d d' : PoolDocument} (hd : a.peek? key = some d) (h : (a.create key).1 = .ok d') :
    d' = d := by
  rw [fst_create_of_some hd] at h
  split at h
  · cases h
  · exact (Except.ok.inj h).symm

theorem peek?_create_of_some {a : Archive} {key k : Key} {d : PoolDocument} (h : a.peek? k = some d) :
    (a.create key).2.peek? k = some d := by
  rcases a.peek?_create key k with hsame | ⟨-, hnone, -⟩
  · rw [hsame, h]
  · rw [h] at hnone
    cases hnone

/-- Whether nothing happened to the documents, except that a missing one may have been created empty. -/
def Opens (a a' : Archive) (key : Key) : Prop :=
  a'.documents = a.documents ∨ a.peek? key = none ∧ a'.documents = a.documents.insert key .empty

/-- Creating it once more changes nothing. -/
theorem Opens.create {a' : Archive} (h : a.Opens a' key) : a.Opens (a'.create key).2 key := by
  by_cases hreach : a'.unavailable = true
  · rw [create_of_outage hreach]
    exact h
  · rw [Bool.not_eq_true] at hreach
    cases hd : a'.peek? key with
    | some d =>
      rw [create_of_stored hreach hd]
      exact h
    | none =>
      rw [create_of_missing hreach hd]
      rcases h with hsame | ⟨-, hnew⟩
      · refine .inr ⟨?_, ?_⟩
        · rw [peek?, ← hsame]
          exact hd
        · show a'.documents.insert key .empty = _
          rw [hsame]
      · rw [peek?, hnew, Std.ExtTreeMap.getElem?_insert_self] at hd
        cases hd

end Allotment.Archive
