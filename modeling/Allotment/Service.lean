import Std.Data.ExtTreeMap
import Allotment.Text.Blank
import Allotment.Text.Bytes
/-!
# Services

A load-balanced service as a store keeps it: who it is, its labels, the address
assigned to it, and the version that every write advances.  Binding an address
writes it in two labels and in the assignment, nowhere else.
-/
namespace Allotment

/-- Texts by key, in the order of the keys. -/
abbrev TextMap := Std.ExtTreeMap String String

/-- One address under which traffic reaches a service. -/
structure Ingress where
  ip : String
  hostname : Option String
deriving DecidableEq

/-- What the load balancer reports of a service. -/
structure Status where
  ingress : List Ingress
deriving DecidableEq

/-- Namespace and name, which tell stored things apart. -/
structure Key where
  ns : String
  name : String
deriving DecidableEq, Repr

namespace Key

/-- Namespace and name as messages show them. -/
def text (k : Key) : String := k.ns ++ "/" ++ k.name

/-- Keys are ordered by namespace, then by name. -/
instance : Ord Key := ⟨compareLex (compareOn Key.ns) (compareOn Key.name)⟩

instance : Std.TransOrd Key :=
  inferInstanceAs (Std.TransCmp (compareLex (compareOn Key.ns) (compareOn Key.name)))

instance : Std.LawfulEqOrd Key where
  eq_of_compare {a b} h := by
    have h' : compareLex (compareOn Key.ns) (compareOn Key.name) a b = .eq := h
    rw [compareLex_eq_eq] at h'
    obtain ⟨ans, aname⟩ := a
    obtain ⟨bns, bname⟩ := b
    have h1 : ans = bns := Std.LawfulEqOrd.eq_of_compare h'.1
    have h2 : aname = bname := Std.LawfulEqOrd.eq_of_compare h'.2
    rw [h1, h2]

end Key

/-- A service as stored. -/
structure Service where
  ns : String
  name : String
  uid : String
  labels : TextMap
  assigned : Option String
  version : UInt64
  status : Status
deriving DecidableEq

namespace Service

/-- The label that says which allocator owns the service. -/
def ownerLabel : String := "implementation"

/-- The label that holds the address taken for the service. -/
def addressLabel : String := "ipam-address"

def key (s : Service) : Key := ⟨s.ns, s.name⟩

/-- Whether an address is assigned; blank text is none. -/
def isBound (s : Service) : Bool :=
  match s.assigned with
  | none => false
  | some t => !(Text.trim t.toList).isEmpty

/-- The assigned address, if it is one. -/
def binding? (s : Service) : Option String := s.assigned.filter fun _ => s.isBound

/-- What the address label says. -/
def address? (s : Service) : Option String := s.labels[addressLabel]?

/-- Whether the allocator with this id owns the service. -/
def isOwnedBy (s : Service) (id : String) : Bool := s.labels[ownerLabel]? == some id

/-- The service with the address assigned to it by the allocator with this id. -/
def bind (s : Service) (id address : String) : Service :=
  { s with
    labels := (s.labels.insert ownerLabel id).insert addressLabel address
    assigned := some address }

/-! ## The load balancer -/

/-- How long the name of a load balancer may be. -/
def balancerNameLimit : Nat := 32

/-- The uid without its dashes. -/
def bareUid (s : Service) : List Char := s.uid.toList.filter (· != '-')

/-- An `a` and the uid without dashes, however long. -/
def uncappedName (s : Service) : List Char := 'a' :: s.bareUid

/-- The name of the service's load balancer, capped at the limit; none if the cap tears a character. -/
def balancerName? (s : Service) : Option String :=
  (Text.capped? balancerNameLimit s.uncappedName).map String.ofList

theorem balancerName?_eq (s : Service) :
    s.balancerName? = some (String.ofList (s.uncappedName.take balancerNameLimit)) := by
  rw [balancerName?, Text.capped?_eq, Option.map_some]

/-- The name of the service's load balancer.  There always is one. -/
def balancerName (s : Service) : String :=
  s.balancerName?.get (Option.isSome_of_eq_some s.balancerName?_eq)

end Service

end Allotment
