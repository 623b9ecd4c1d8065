import Allotment.Proofs.Calls
/-!
# Weather

One reconciliation that has the stores for itself, while everything that can go wrong on
the way to them does so at will: any call may be answered by any fault before it reaches
a store, and the signal may be raised at any moment.  What the reconciliation was
answered is written down on its way (`Voyage`), the accepted writes above all.
-/
namespace Allotment

/-- What goes wrong, by the number of the answer: the fault that keeps a call from its store, and whether
the signal is found raised. -/
structure Weather where
  fault? : Nat → Option StoreFault
  raised : Nat → Bool

/-- How far a reconciliation has come: the stores as they are now, how many answers it has had, and its
accepted writes as they were stored. -/
structure Voyage where
  stores : Stores
  answers : Nat
  commits : List Service

namespace Voyage

def start (st : Stores) : Voyage := ⟨st, 0, []⟩

/-- One answer later. -/
def next (v : Voyage) (st : Stores) : Voyage := ⟨st, v.answers + 1, v.commits⟩

/-- The writes that were accepted, after one more was answered. -/
def noted (v : Voyage) : Except StoreFault Service → Voyage
  | .ok stored => { v with commits := v.commits ++ [stored] }
  | .error _ => v

end Voyage

namespace Weather

/-- The stores as the next call finds them. -/
def now (w : Weather) (v : Voyage) : Surroundings Stores :=
  Stores.troubled (w.fault? v.answers) (w.raised v.answers)

/-- The stores in this weather. -/
def surroundings (w : Weather) : Surroundings Voyage where
  list v ns selector :=
    let (answer, st) := (w.now v).list v.stores ns selector
    (answer, v.next st)
  getDocument v key :=
    let (answer, st) := (w.now v).getDocument v.stores key
    (answer, v.next st)
  createDocument v key :=
    let (answer, st) := (w.now v).createDocument v.stores key
    (answer, v.next st)
  get v key :=
    let (answer, st) := (w.now v).get v.stores key
    (answer, v.next st)
  update v s :=
    let (answer, st) := (w.now v).update v.stores s
    (answer, (v.next st).noted answer)
  signal v :=
    let (stopped, st) := (w.now v).signal v.stores
    (stopped, v.next st)
  sleep v n :=
    let (stopped, st) := (w.now v).sleep v.stores n
    (stopped, v.next st)

end Weather

namespace Task

variable (t : Task) (w : Weather) (v : Voyage)

theorem stores_noted (answer : Except StoreFault Service) : (v.noted answer).stores = v.stores := by
  cases answer <;> rfl

/-- An answer in this weather is the answer of the stores as they are found. -/
theorem advance_surroundings {s : Stage} (h : s.result? = none) :
    (t.advance w.surroundings v s).1 = (t.advance (w.now v) v.stores s).1 ∧
      (t.advance w.surroundings v s).2.stores = (t.advance (w.now v) v.stores s).2 := by
  cases s with
  | finished result => cases h
  | writing a left draft => exact ⟨rfl, stores_noted _ _⟩
  | _ => exact ⟨rfl, rfl⟩

/-- Only a write is written down. -/
theorem commits_advance {s : Stage} (h : ∀ a left draft, s ≠ .writing a left draft) :
    (t.advance w.surroundings v s).2.commits = v.commits := by
  cases s with
  | writing a left draft => exact absurd rfl (h a left draft)
  | _ => rfl

/-- A write that does not reach the store is refused. -/
theorem advance_writing_of_fault {a : Address} {left : Nat} {draft : Service} {f : StoreFault}
    (h : w.fault? v.answers = some f) :
    t.advance w.surroundings v (.writing a left draft) = (t.afterWrite a left (.error f), v.next v.stores) := by
  have hnow : w.now v = Stores.refusing f (w.raised v.answers) := by rw [Weather.now, h]; rfl
  simp only [advance, Weather.surroundings, hnow]
  rfl

/-- A write that reaches the store is answered by it. -/
theorem advance_writing {a : Address} {left : Nat} {draft : Service} (h : w.fault? v.answers = none) :
    t.advance w.surroundings v (.writing a left draft) =
      (t.afterWrite a left (v.stores.registry.update draft).1,
        (v.next (v.stores.update draft).2).noted (v.stores.registry.update draft).1) := by
  have hnow : w.now v = Stores.surroundings (w.raised v.answers) := by rw [Weather.now, h]; rfl
  simp only [advance, Weather.surroundings, hnow]
  rfl

end Task

end Allotment
