import Allotment.Failure
/-!
# Counters

How often each outcome of a reconciliation occurred.  Counters are 64-bit words,
and so is the sum of the binding times.
-/
namespace Allotment

/-- Something that is counted. -/
inductive Occurrence where
  | started
  | alreadyBound
  | bound
  | conflictRetry
  | failure (f : Failure)
  | deletion
deriving DecidableEq, Repr

/-- Counts by outcome. -/
structure Counters where
  reconciliations : UInt64
  alreadyBound : UInt64
  addressesBound : UInt64
  conflictRetries : UInt64
  deletions : UInt64
  poolNotFound : UInt64
  invalidPool : UInt64
  exhausted : UInt64
  /-- Failures of the stores, of the last allowed attempt, and by the signal to stop. -/
  persistence : UInt64
  /-- The time from start to write, summed over all bindings, in nanoseconds. -/
  bindNanos : UInt64
deriving DecidableEq, Repr

namespace Counters

def zero : Counters := ⟨0, 0, 0, 0, 0, 0, 0, 0, 0, 0⟩

/-- One more failure of its kind. -/
def addFailure (c : Counters) : Failure → Counters
  | .poolNotFound _ => { c with poolNotFound := c.poolNotFound + 1 }
  | .invalidPool _ _ => { c with invalidPool := c.invalidPool + 1 }
  | .exhausted _ => { c with exhausted := c.exhausted + 1 }
  | .persistenceFailed _ _ | .cancelled _ | .store _ => { c with persistence := c.persistence + 1 }

/-- One more occurrence; `nanos` is the time that a binding took. -/
def add (c : Counters) (nanos : Nat) : Occurrence → Counters
  | .started => { c with reconciliations := c.reconciliations + 1 }
  | .alreadyBound => { c with alreadyBound := c.alreadyBound + 1 }
  | .bound =>
    { c with
      addressesBound := c.addressesBound + 1
      bindNanos := c.bindNanos + UInt64.ofNat nanos }
  | .conflictRetry => { c with conflictRetries := c.conflictRetries + 1 }
  | .failure f => c.addFailure f
  | .deletion => { c with deletions := c.deletions + 1 }

/-- One more of each, one after another. -/
def addAll (c : Counters) (nanos : Nat) (os : List Occurrence) : Counters :=
  os.foldl (fun c o => c.add nanos o) c

/-- The mean time of a binding, in whole nanoseconds; none at all take no time. -/
def meanBindNanos (c : Counters) : UInt64 :=
  if c.addressesBound = 0 then 0 else c.bindNanos / c.addressesBound

def totalFailures (c : Counters) : UInt64 :=
  c.poolNotFound + c.invalidPool + c.exhausted + c.persistence

end Counters

end Allotment
