import Allotment.Claims
import Allotment.Failure
import Allotment.Pool
/-!
# Vacancy

The lowest address of a pool that nobody claims.  The search walks up from the
pool's first address and stops at the first unclaimed one.
-/
namespace Allotment

/-- The lowest unclaimed number from `candidate` to `last`. -/
def firstVacant? (family : Family) (claims : Claims) (last candidate : Nat) : Option Nat :=
  if !claims.contains (family.address candidate) then some candidate
  else if candidate < last then firstVacant? family claims last (candidate + 1)
  else none
termination_by last - candidate

/-- The lowest address of the interval that is not claimed. -/
def Interval.vacancy? (s : Interval) (claims : Claims) : Option Address :=
  (firstVacant? s.family claims s.last s.first).map s.family.address

/-- The lowest address of the pool that is not claimed; nothing if all are. -/
def Pool.vacancy? (p : Pool) (claims : Claims) : Except PoolFault (Option Address) :=
  p.interval.map fun s => s.vacancy? claims

/-- A pool with the name it was found under. -/
structure NamedPool where
  name : PoolName
  pool : Pool
deriving DecidableEq, Repr

/-- The address to take from the pool, or why there is none. -/
def NamedPool.allocate (p : NamedPool) (claims : Claims) : Except Failure Address :=
  match p.pool.vacancy? claims with
  | .ok (some a) => .ok a
  | .ok none => .error (.exhausted p.name.text)
  | .error reason => .error (.invalidPool p.name.text reason)

end Allotment
