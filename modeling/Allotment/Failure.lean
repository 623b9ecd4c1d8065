import Allotment.Pool.Fault
import Allotment.Store.Fault
/-!
# Failures

Why a reconciliation did not end with a bound service, and whether trying again
without changing anything can help.
-/
namespace Allotment

/-- Why no address was bound. -/
inductive Failure where
  /-- No pool applies to the namespace. -/
  | poolNotFound (ns : String)
  /-- The pool that applies describes no addresses. -/
  | invalidPool (pool : String) (reason : PoolFault)
  /-- Every address of the pool is claimed. -/
  | exhausted (pool : String)
  /-- Every allowed attempt to write met a version conflict. -/
  | persistenceFailed (service : String) (attempts : Nat)
  /-- The signal to stop was raised. -/
  | cancelled (service : String)
  /-- A store refused a call. -/
  | store (fault : StoreFault)
deriving DecidableEq, Repr

namespace Failure

/-- The failure in words. -/
def message : Failure → String
  | poolNotFound ns => "no cidr or range pool configured for namespace " ++ ns ++ " (or globally)"
  | invalidPool pool reason => "invalid pool [" ++ pool ++ "]: " ++ reason.message
  | exhausted pool => "no free address left in pool [" ++ pool ++ "]"
  | persistenceFailed service attempts =>
    "failed to persist address on service " ++ service ++ " after " ++ toString attempts ++ " attempts"
  | cancelled service => "reconciliation of service " ++ service ++ " cancelled"
  | store fault => fault.message

/-- The failure's kind as a word. -/
def kind : Failure → String
  | poolNotFound _ => "pool_not_found"
  | invalidPool _ _ => "invalid_pool"
  | exhausted _ => "exhausted"
  | persistenceFailed _ _ => "persistence_failed"
  | cancelled _ => "cancelled"
  | store _ => "store"

/-- Whether a later try may succeed without an administrator's doing. -/
def isRetryable : Failure → Bool
  | invalidPool _ _ | exhausted _ => false
  | poolNotFound _ | persistenceFailed _ _ | cancelled _ | store _ => true

end Failure

end Allotment
