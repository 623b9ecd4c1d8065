import Allotment.Proofs.Vacancy
import Allotment.Reconcile
/-!
# The verdict

What a pool document and some claims decide for a namespace, as a relation that says it
case by case (`Verdict`): no entry governs, or the one that does describes no addresses,
or all of its addresses are claimed, or the lowest vacancy is the address to take.  What a
reconciliation computes is this verdict and no other (`allot_eq_iff`).
-/
namespace Allotment

/-- The addresses that an entry of a form describes. -/
def PoolForm.interval (form : PoolForm) (entry : String) : Except PoolFault Interval :=
  (Pool.ofEntry form entry).bind Pool.interval

namespace PoolDocument

/-- Whether an entry is the first that is present in the namespace's order of precedence. -/
def Governs (d : PoolDocument) (ns : String) (name : PoolName) (entry : String) : Prop :=
  ∃ before after, PoolName.precedence ns = before ++ name :: after ∧
    (∀ n ∈ before, d.entry? n = none) ∧ d.entry? name = some entry

/-- What the claims leave of the pool that governs a namespace: the address to take, or why there is
none. -/
def allot (d : PoolDocument) (ns : String) (claims : Claims) : Except Failure Address :=
  (d.governing ns).bind fun p => p.allocate claims

theorem firstOf?_eq_none_iff (d : PoolDocument) : ∀ names : List PoolName,
    d.firstOf? names = none ↔ ∀ n ∈ names, d.entry? n = none
  | [] => by simp [firstOf?]
  | name :: names => by
    rw [firstOf?, List.forall_mem_cons]
    cases hd : d.entry? name with
    | none => simp [d.firstOf?_eq_none_iff names]
    | some entry => simp

theorem firstOf?_eq_some_iff (d : PoolDocument) {name : PoolName} {entry : String} :
    ∀ names : List PoolName, d.firstOf? names = some (name, entry) ↔
      ∃ before after, names = before ++ name :: after ∧ (∀ n ∈ before, d.entry? n = none) ∧
        d.entry? name = some entry
  | [] => by simp [firstOf?]
  | first :: names => by
    rw [firstOf?]
    cases hd : d.entry? first with
    | some text =>
      constructor
      · intro h
        cases h
        exact ⟨[], names, rfl, by simp, hd⟩
      · rintro ⟨before, after, hsplit, hbefore, hname⟩
        cases before with
        | nil =>
          cases hsplit
          rw [hd] at hname
          cases hname
          rfl
        | cons n before =>
          cases hsplit
          rw [hbefore first List.mem_cons_self] at hd
          cases hd
    | none =>
      rw [d.firstOf?_eq_some_iff names]
      constructor
      · rintro ⟨before, after, rfl, hbefore, hname⟩
        exact ⟨first :: before, after, rfl, List.forall_mem_cons.2 ⟨hd, hbefore⟩, hname⟩
      · rintro ⟨before, after, hsplit, hbefore, hname⟩
        cases before with
        | nil =>
          cases hsplit
          rw [hd] at hname
          cases hname
        | cons n before =>
          cases hsplit
          exact ⟨before, after, rfl, (List.forall_mem_cons.1 hbefore).2, hname⟩

theorem governs_iff {d : PoolDocument} {ns : String} {name : PoolName} {entry : String} :
    d.Governs ns name entry ↔ d.firstOf? (PoolName.precedence ns) = some (name, entry) :=
  (d.firstOf?_eq_some_iff (PoolName.precedence ns)).symm

theorem allot_of_absent {d : PoolDocument} {ns : String}
    (h : ∀ n ∈ PoolName.precedence ns, d.entry? n = none) (claims : Claims) :
    d.allot ns claims = .error (.poolNotFound ns) := by
  rw [allot, governing, (d.firstOf?_eq_none_iff _).2 h]
  rfl

/-- **What is left of a pool that governs**, computed from its entry. -/
theorem allot_of_governs {d : PoolDocument} {ns : String} {name : PoolName} {entry : String}
    (h : d.Governs ns name entry) (claims : Claims) :
    d.allot ns claims =
      match name.form.interval entry with
      | .error reason => .error (.invalidPool name.text reason)
      | .ok s =>
        match s.vacancy? claims with
        | some a => .ok a
        | none => .error (.exhausted name.text) := by
  rw [allot, governing, governs_iff.1 h, PoolForm.interval]
  simp only
  cases Pool.ofEntry name.form entry with
  | error reason => rfl
  | ok pool =>
    simp only [Except.bind, NamedPool.allocate, Pool.vacancy?]
    cases pool.interval with
    | error reason => rfl
    | ok s =>
      simp only [Except.map]
      cases s.vacancy? claims <;> rfl

/-- What a document decides for a namespace, given which addresses are claimed. -/
inductive Verdict (d : PoolDocument) (ns : String) (claimed : Address → Prop) :
    Except Failure Address → Prop where
  | unpooled : (∀ n ∈ PoolName.precedence ns, d.entry? n = none) →
      Verdict d ns claimed (.error (.poolNotFound ns))
  | invalid {name : PoolName} {entry : String} {reason : PoolFault} : d.Governs ns name entry →
      name.form.interval entry = .error reason →
      Verdict d ns claimed (.error (.invalidPool name.text reason))
  | exhausted {name : PoolName} {entry : String} {s : Interval} : d.Governs ns name entry →
      name.form.interval entry = .ok s → (∀ a ∈ s, claimed a) →
      Verdict d ns claimed (.error (.exhausted name.text))
  | lowest {name : PoolName} {entry : String} {s : Interval} {a : Address} : d.Governs ns name entry →
      name.form.interval entry = .ok s → a ∈ s → ¬claimed a →
      (∀ b ∈ s, ¬claimed b → a.value ≤ b.value) → Verdict d ns claimed (.ok a)

/-- What fails goes on failing when more is claimed. -/
theorem Verdict.mono {d : PoolDocument} {ns : String} {claimed claimed' : Address → Prop} {f : Failure}
    (h : d.Verdict ns claimed (.error f)) (hmore : ∀ a, claimed a → claimed' a) :
    d.Verdict ns claimed' (.error f) := by
  cases h with
  | unpooled habsent => exact .unpooled habsent
  | invalid hgoverns hs => exact .invalid hgoverns hs
  | exhausted hgoverns hs hall => exact .exhausted hgoverns hs fun a ha => hmore a (hall a ha)

theorem verdict_allot (d : PoolDocument) (ns : String) (claims : Claims) :
    d.Verdict ns (· ∈ claims) (d.allot ns claims) := by
  cases hf : d.firstOf? (PoolName.precedence ns) with
  | none =>
    have habsent := (d.firstOf?_eq_none_iff _).1 hf
    rw [allot_of_absent habsent]
    exact .unpooled habsent
  | some first =>
    obtain ⟨name, entry⟩ := first
    have hgoverns : d.Governs ns name entry := governs_iff.2 hf
    rw [allot_of_governs hgoverns]
    cases hs : name.form.interval entry with
    | error reason => exact .invalid hgoverns hs
    | ok s =>
      simp only
      cases hv : s.vacancy? claims with
      | none => exact .exhausted hgoverns hs (Interval.vacancy?_eq_none_iff.1 hv)
      | some a =>
        obtain ⟨ha, hfree, hleast⟩ := Interval.vacancy?_eq_some_iff.1 hv
        exact .lowest hgoverns hs ha hfree hleast

/-- **What is computed is the verdict, and there is no other.** -/
theorem allot_eq_iff {d : PoolDocument} {ns : String} {claims : Claims} {v : Except Failure Address} :
    d.allot ns claims = v ↔ d.Verdict ns (· ∈ claims) v := by
  constructor
  · rintro rfl
    exact d.verdict_allot ns claims
  · intro h
    cases h with
    | unpooled habsent => exact allot_of_absent habsent claims
    | invalid hgoverns hs => rw [allot_of_governs hgoverns, hs]
    | exhausted hgoverns hs hall =>
      rw [allot_of_governs hgoverns, hs]
      simp only [Interval.vacancy?_eq_none_iff.2 hall]
    | lowest hgoverns hs ha hfree hleast =>
      rw [allot_of_governs hgoverns, hs]
      simp only [Interval.vacancy?_eq_some_iff.2 ⟨ha, hfree, hleast⟩]

end PoolDocument

/-- What is chosen is what the document allots. -/
theorem Task.stage_choose (t : Task) (claims : Claims) (d : PoolDocument) :
    (t.choose claims d).stage =
      match d.allot t.service.ns claims with
      | .error f => .finished (.error f)
      | .ok a => .checking a (t.limit - 1) := by
  unfold choose PoolDocument.allot after
  simp only
  cases d.governing t.service.ns with
  | error f => rfl
  | ok p =>
    simp only [Except.bind]
    cases p.allocate claims <;> rfl

end Allotment
