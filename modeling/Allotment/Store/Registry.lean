import Allotment.Service.Selector
import Allotment.Store.Fault
/-!
# The registry of services

A store of services in memory.  A write is accepted only if it carries the stored
version, and every accepted write advances it.  For rehearsals the registry can be
made unreachable, and can be told to meet the next writes with a newer version.
-/
namespace Allotment

/-- Services by namespace and name, with what disturbs the calls. -/
structure Registry where
  services : Std.ExtTreeMap Key Service
  /-- How many of the next writes find that the stored version has moved on. -/
  conflictsDue : Nat
  unavailable : Bool
  /-- How often a write was tried. -/
  updateCalls : UInt64
deriving DecidableEq

namespace Registry

def empty : Registry := ⟨∅, 0, false, 0⟩

/-- What is stored under a key, reachable or not. -/
def peek? (r : Registry) (key : Key) : Option Service := r.services[key]?

/-- The service as it is stored by `insert`: one version after what it replaces. -/
def stamped (r : Registry) (s : Service) : Service :=
  { s with version := match r.peek? s.key with
      | none => 1
      | some old => old.version + 1 }

/-- Stores the service whatever its version. -/
def insert (r : Registry) (s : Service) : Registry :=
  { r with services := r.services.insert s.key (r.stamped s) }

def remove (r : Registry) (key : Key) : Registry := { r with services := r.services.erase key }

def size (r : Registry) : Nat := r.services.size

def isEmpty (r : Registry) : Bool := r.services.isEmpty

/-- Every stored service, ascending by key. -/
def toList (r : Registry) : List Service := r.services.toList.map (·.2)

/-- The fault that every call meets while the registry is unreachable. -/
def outage : StoreFault := .connection "request store unavailable"

/-- The services of a namespace whose labels meet the selector, ascending by name. -/
def selected (r : Registry) (ns selector : String) : List Service :=
  r.toList.filter fun s => s.ns == ns && s.selectedBy selector

def list (r : Registry) (ns selector : String) : Except StoreFault (List Service) :=
  if r.unavailable then .error outage else .ok (r.selected ns selector)

def get (r : Registry) (key : Key) : Except StoreFault Service :=
  if r.unavailable then .error outage
  else match r.peek? key with
    | some s => .ok s
    | none => .error (.notFound .service key)

/-- The registry after a call for a write was counted. -/
def counted (r : Registry) : Registry := { r with updateCalls := r.updateCalls + 1 }

/-- The registry and the stored service as a write finds them: if a conflict is due, the stored
version has moved on. -/
def disturbed (r : Registry) (stored : Service) : Registry × Service :=
  if r.conflictsDue = 0 then (r, stored)
  else
    let moved := { stored with version := stored.version + 1 }
    ({ r with
        conflictsDue := r.conflictsDue - 1
        services := r.services.insert stored.key moved }, moved)

/-- A write of `s` over `stored`, accepted if `s` carries the stored version. -/
def overwrite (r : Registry) (stored s : Service) : Except StoreFault Service × Registry :=
  if stored.version = s.version then
    let next := { s with version := s.version + 1 }
    (.ok next, { r with services := r.services.insert s.key next })
  else (.error (.versionConflict s.key.text s.version stored.version), r)

/-- Replaces the stored service if `s` carries its version. -/
def update (r : Registry) (s : Service) : Except StoreFault Service × Registry :=
  let r := r.counted
  if r.unavailable then (.error outage, r)
  else match r.peek? s.key with
    | none => (.error (.notFound .service s.key), r)
    | some stored =>
      let (r, stored) := r.disturbed stored
      r.overwrite stored s

end Registry

end Allotment
