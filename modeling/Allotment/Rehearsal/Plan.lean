import Allotment.Store.Fault
/-!
# Planned faults

Which of the next calls to the stores fail before they reach them, and how.
-/
namespace Allotment.Rehearsal

open Allotment

/-- The faults that the next calls of each kind meet: `none` lets a call through. -/
structure FaultPlan where
  list : List (Option StoreFault)
  get : List (Option StoreFault)
  update : List (Option StoreFault)
  getDocument : List (Option StoreFault)
  createDocument : List (Option StoreFault)
deriving DecidableEq

/-- A kind of call that can be planned to fail. -/
inductive CallKind where
  | list
  | get
  | update
  | getDocument
  | createDocument
deriving DecidableEq, Repr

namespace FaultPlan

def none : FaultPlan := ⟨[], [], [], [], []⟩

def planned (p : FaultPlan) : CallKind → List (Option StoreFault)
  | .list => p.list
  | .get => p.get
  | .update => p.update
  | .getDocument => p.getDocument
  | .createDocument => p.createDocument

/-- The plan with the faults of one kind of call replaced. -/
def withPlanned (p : FaultPlan) (fs : List (Option StoreFault)) : CallKind → FaultPlan
  | .list => { p with list := fs }
  | .get => { p with get := fs }
  | .update => { p with update := fs }
  | .getDocument => { p with getDocument := fs }
  | .createDocument => { p with createDocument := fs }

/-- The fault that the next call of a kind meets, and the plan after it. -/
def next (p : FaultPlan) (k : CallKind) : Option StoreFault × FaultPlan :=
  match p.planned k with
  | [] => (Option.none, p)
  | f :: fs => (f, p.withPlanned fs k)

end FaultPlan

end Allotment.Rehearsal
