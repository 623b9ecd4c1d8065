import Allotment.Notice
import Allotment.Pool.Document
/-!
# What the decisions report

The notices of reading claims, of looking for a pool and of taking an address.  The
decisions themselves are made without them.
-/
namespace Allotment

/-- One notice for each label that is no address. -/
def Claims.notices (ss : List Service) : List Notice :=
  (Claims.unreadable ss).map fun (key, label) => .labelIgnored key label

/-- What building the claims of a namespace from its owned services reports. -/
def Claims.builtNotices (ns : String) (owned : List Service) : List Notice :=
  Claims.notices owned ++ [.claimsBuilt ns owned.length (Claims.ofServices owned).size]

/-- The claims of the services that a listing gave. -/
def Claims.ofListing : Except StoreFault (List Service) → Except Failure Claims
  | .ok owned => .ok (Claims.ofServices owned)
  | .error f => .error (.store f)

/-- What building the claims of a namespace from a listing reports. -/
def Claims.listingNotices (ns : String) : Except StoreFault (List Service) → List Notice
  | .ok owned => Claims.builtNotices ns owned
  | .error _ => []

/-- One notice for each name up to the first that has an entry. -/
def PoolDocument.searchNotices (d : PoolDocument) (ns : String) : List PoolName → List Notice
  | [] => []
  | name :: names =>
    match d.entry? name with
    | some _ => [.poolTaken ns name]
    | none => .poolAbsent ns name :: d.searchNotices ns names

/-- What looking for the pool of a namespace reports. -/
def PoolDocument.governingNotices (d : PoolDocument) (ns : String) : List Notice :=
  d.searchNotices ns (PoolName.precedence ns)

/-- What taking an address reports: the address, if there is one. -/
def NamedPool.allocateNotices (p : NamedPool) (claims : Claims) : List Notice :=
  match p.allocate claims with
  | .ok a => [.addressFound p.name a claims.size]
  | .error _ => []

end Allotment
