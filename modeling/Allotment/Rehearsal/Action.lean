import Allotment.Rehearsal.Plan
import Allotment.Store
/-!
# Actions and replies

What a rehearsal can do in one step, and what comes back.
-/
namespace Allotment.Rehearsal

open Allotment

/-- Why an action could not be understood. -/
inductive Refusal where
  /-- There is no such action. -/
  | unknown
  /-- A value of it does not have the form it should have. -/
  | malformed
deriving DecidableEq, Repr

/-- The service that an action is about: one that is given, or the one stored under a key. -/
inductive Subject where
  | given (s : Service)
  | stored (key : Key)
  /-- One that was given in no form of a service. -/
  | unreadable
deriving DecidableEq

/-- What is asked of the allocator about a service. -/
inductive Order where
  /-- Its address; with a signal of its own, which is raised or not at the beginning. -/
  | sync (own : Option Bool)
  /-- A load balancer, whose status comes back. -/
  | ensure (cluster : String)
  /-- An update of its load balancer. -/
  | refresh (cluster : String)
deriving DecidableEq, Repr

/-- What an order reports before its reconciliation begins. -/
def Order.notices (service : Key) : Order → List Notice
  | .sync _ => []
  | .ensure cluster => [.ensuring cluster service]
  | .refresh cluster => [.refreshing cluster service]

/-- One step. -/
inductive Action where
  | refused (why : Refusal)
  | insert (s : Service)
  | remove (key : Key)
  | peek (key : Key)
  | size
  | get (key : Key)
  /-- A write of a service, after giving it a version or binding it to an address. -/
  | update (subject : Subject) (version : Option UInt64) (address : Option String)
  | list (ns selector : String)
  | conflicts (n : Nat)
  | setRegistryUnavailable (unavailable : Bool)
  | setArchiveUnavailable (unavailable : Bool)
  | plan (kind : CallKind) (faults : List (Option StoreFault))
  | putDocument (key : Key) (d : PoolDocument)
  /-- Puts the pool document of the allocator. -/
  | putPools (d : PoolDocument)
  | getDocument (key : Key)
  | createDocument (key : Key)
  | claims (ns : String)
  | document
  | stop
  | setOutside (value : Option Bool)
  | setOwn (value : Option Bool)
  | order (o : Order) (subject : Subject)
  | syncAll (subjects : List Subject)
  | release (cluster : String) (subject : Subject)
  | presence (subject : Subject)
  | balancerName (subject : Subject)
  | counters
deriving DecidableEq

namespace Action

/-- Whether the step's length is told. -/
def isTimed : Action → Bool
  | order .. | syncAll _ => true
  | _ => false

end Action

/-- What comes back. -/
inductive Reply where
  | refused (why : Refusal)
  /-- The service that an action is about is not stored. -/
  | unknownService
  | done
  | storeFault (f : StoreFault)
  | failure (f : Failure)
  | service (s : Service)
  | serviceOrNone (s : Option Service)
  | services (ss : List Service)
  | size (n : Nat) (isEmpty : Bool)
  | document (d : PoolDocument)
  | addresses (as : List Address)
  | stopping (raised : Bool)
  | outcome (o : Outcome)
  | outcomes (os : List (Except Failure Outcome))
  | status (s : Status)
  | acknowledged
  | presence (s : Option Status)
  | balancerName (name : String)
  | counters (c : Counters)

namespace Reply

/-- The reply to a call of a store. -/
def ofCall {α : Type} (reply : α → Reply) : Except StoreFault α → Reply
  | .ok a => reply a
  | .error f => storeFault f

/-- The reply to what the allocator was asked. -/
def ofAnswer {α : Type} (reply : α → Reply) : Except Failure α → Reply
  | .ok a => reply a
  | .error f => failure f

/-- The reply to an order whose reconciliation has ended. -/
def ofResult (o : Order) : Except Failure Outcome → Reply
  | .error f => failure f
  | .ok out =>
    match o with
    | .sync _ => outcome out
    | .ensure _ => status out.service.status
    | .refresh _ => acknowledged

end Reply

end Allotment.Rehearsal
