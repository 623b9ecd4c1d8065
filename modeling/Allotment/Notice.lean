import Allotment.Failure
import Allotment.Pool
/-!
# Notices

What the library reports while it works.  A notice is a value; its severity, its
message and its fields are functions of it, so that what is reported can be
compared, counted and left out without touching the work itself.
-/
namespace Allotment

/-- How grave a notice is. -/
inductive Severity where
  | warn
  | info
  | debug
deriving DecidableEq, Repr

namespace Severity

def word : Severity → String
  | warn => "warn"
  | info => "info"
  | debug => "debug"

/-- The gravest has rank zero. -/
def rank : Severity → Nat
  | warn => 0
  | info => 1
  | debug => 2

end Severity

/-- The states a reconciliation passes through. -/
inductive Phase where
  | unbound
  | resolving
  | allocating
  | persisting
  | bound
  | failed
deriving DecidableEq, Repr

namespace Phase

def word : Phase → String
  | unbound => "Unbound"
  | resolving => "Resolving"
  | allocating => "Allocating"
  | persisting => "Persisting"
  | bound => "Bound"
  | failed => "Failed"

/-- Whether a reconciliation ends in the state. -/
def isTerminal : Phase → Bool
  | bound | failed => true
  | unbound | resolving | allocating | persisting => false

/-- The states in the order in which they are reached. -/
def all : List Phase := [unbound, resolving, allocating, persisting, bound, failed]

end Phase

/-- Something worth reporting. -/
inductive Notice where
  /-- An address label that is neither blank nor an address. -/
  | labelIgnored (service : Key) (label : String)
  /-- A name of the order of precedence without an entry. -/
  | poolAbsent (ns : String) (pool : PoolName)
  /-- The entry that governs the namespace. -/
  | poolTaken (ns : String) (pool : PoolName)
  | addressFound (pool : PoolName) (address : Address) (claimed : Nat)
  | listed (count : Nat) (ns selector : String)
  | claimsBuilt (ns : String) (owned claimed : Nat)
  | documentMissing (document : Key)
  | documentCreated (document : Key)
  | syncing (service : Key) (uid : String)
  | entered (service : Key) (phase : Phase)
  | alreadyBound (service : Key) (address : String)
  | boundConcurrently (service : Key) (address : String)
  | updating (service : Key) (address : Address) (attempt : Nat)
  | conflicted (service : Key) (attempt limit : Nat) (fault : StoreFault)
  | failed (service : Key) (failure : Failure)
  | deleting (service : Key) (uid address : String)
  | ensuring (cluster : String) (service : Key)
  | refreshing (cluster : String) (service : Key)
  | releasing (cluster : String) (service : Key)
  /-- A number of attempts in the environment that is no number. -/
  | attemptsUnreadable (text : String)
  | settingsLoaded (allocatorId : String) (document : Key)
deriving DecidableEq, Repr

namespace Notice

def severity : Notice → Severity
  | labelIgnored .. | documentMissing _ | failed .. | attemptsUnreadable _ => .warn
  | poolAbsent .. | poolTaken .. | documentCreated _ | syncing .. | boundConcurrently ..
  | updating .. | deleting .. | settingsLoaded .. => .info
  | addressFound .. | listed .. | claimsBuilt .. | entered .. | alreadyBound .. | conflicted ..
  | ensuring .. | refreshing .. | releasing .. => .debug

/-- What every notice of the allocator starts with. -/
def tag : String := "[vip-ipam] "

def message : Notice → String
  | labelIgnored .. => tag ++ "Ignoring unparsable ipam-address label"
  | poolAbsent .. => tag ++ "No pool configured under key"
  | poolTaken .. => tag ++ "Taking address from pool"
  | addressFound .. => tag ++ "Found free address"
  | listed count ns selector =>
    tag ++ "Listed " ++ toString count ++ " requests in " ++ ns ++ " matching [" ++ selector ++ "]"
  | claimsBuilt .. => tag ++ "Built claim set"
  | documentMissing document =>
    tag ++ "Configuration document " ++ document.text ++ " missing, creating it"
  | documentCreated document => tag ++ "Created empty configuration document " ++ document.text
  | syncing .. => tag ++ "Syncing service"
  | entered .. => tag ++ "Reconcile state"
  | alreadyBound .. => tag ++ "Address already assigned, nothing to do"
  | boundConcurrently .. => tag ++ "Service was bound concurrently, keeping existing address"
  | updating .. => tag ++ "Updating service with load balancer IPAM address"
  | conflicted _ _ _ fault => tag ++ "Version conflict: " ++ fault.message
  | failed _ failure => tag ++ "Reconciliation failed: " ++ failure.message
  | deleting .. => tag ++ "Deleting service"
  | ensuring .. => tag ++ "Ensure load balancer"
  | refreshing .. => tag ++ "Update load balancer"
  | releasing .. => tag ++ "Ensure load balancer deleted"
  | attemptsUnreadable text =>
    "VIP_IPAM_RETRY_ATTEMPTS must be a positive integer, got " ++ Text.quoted text
  | settingsLoaded .. => "Loaded allocator configuration"

/-- The notice's data, by name. -/
def fields : Notice → List (String × String)
  | labelIgnored service label => [("service", service.text), ("label", label)]
  | poolAbsent ns pool | poolTaken ns pool => [("namespace", ns), ("pool", pool.text)]
  | addressFound pool address claimed =>
    [("pool", pool.text), ("address", address.text), ("claimed", toString claimed)]
  | listed .. | documentMissing _ | documentCreated _ | attemptsUnreadable _ => []
  | claimsBuilt ns owned claimed =>
    [("namespace", ns), ("owned", toString owned), ("claimed", toString claimed)]
  | syncing service uid => [("service", service.text), ("uid", uid)]
  | entered service phase => [("service", service.text), ("state", phase.word)]
  | alreadyBound service address | boundConcurrently service address =>
    [("service", service.text), ("address", address)]
  | updating service address attempt =>
    [("service", service.text), ("address", address.text), ("attempt", toString attempt)]
  | conflicted service attempt limit _ =>
    [("service", service.text), ("attempt", toString attempt), ("max_attempts", toString limit)]
  | failed service failure =>
    [("service", service.text), ("kind", failure.kind), ("retryable", toString failure.isRetryable)]
  | deleting service uid address =>
    [("service", service.text), ("uid", uid), ("address", address)]
  | ensuring cluster service | refreshing cluster service | releasing cluster service =>
    [("cluster", cluster), ("service", service.text)]
  | settingsLoaded allocatorId document =>
    [("allocator_id", allocatorId), ("document", document.text)]

/-- The notices that are at least as grave as a severity, in order. -/
def atLeast (least : Severity) (ns : List Notice) : List Notice :=
  ns.filter fun n => n.severity.rank ≤ least.rank

/-- The state that a notice tells was entered, and the service. -/
def phase? : Notice → Option (Key × Phase)
  | entered service phase => some (service, phase)
  | _ => none

/-- The states that were entered, in order. -/
def phases (ns : List Notice) : List (Key × Phase) := ns.filterMap phase?

end Notice

end Allotment
