import Allotment.Address.Text
import Allotment.Service
/-!
# Claims

The addresses that services hold already, read from their address labels.  A blank
label claims nothing; a label that is no address claims nothing either and is
reported.
-/
namespace Allotment

/-- A set of claimed addresses. -/
structure Claims where
  addresses : Std.ExtTreeSet Address
deriving DecidableEq

namespace Claims

def empty : Claims := ⟨∅⟩

instance : EmptyCollection Claims := ⟨empty⟩

def contains (c : Claims) (a : Address) : Bool := c.addresses.contains a

instance : Membership Address Claims := ⟨fun c a => a ∈ c.addresses⟩

instance (a : Address) (c : Claims) : Decidable (a ∈ c) :=
  inferInstanceAs (Decidable (a ∈ c.addresses))

def insert (c : Claims) (a : Address) : Claims := ⟨c.addresses.insert a⟩

/-- The set with the address in it, and whether that is new. -/
def insertNew (c : Claims) (a : Address) : Bool × Claims := (!c.contains a, c.insert a)

def size (c : Claims) : Nat := c.addresses.size

def isEmpty (c : Claims) : Bool := c.addresses.isEmpty

/-- The claimed addresses, ascending. -/
def toList (c : Claims) : List Address := c.addresses.toList

def ofList (as : List Address) : Claims := as.foldl insert ∅

/-- What the text of an address label claims. -/
inductive Reading where
  | nothing
  | address (a : Address)
  | unreadable (text : String)
deriving DecidableEq, Repr

def readLabel (s : String) : Reading :=
  let body := Text.trim s.toList
  if body.isEmpty then .nothing
  else match Address.ofChars? .strict body with
    | some a => .address a
    | none => .unreadable (String.ofList body)

/-- The address that a service claims, if its label holds one. -/
def claimOf? (s : Service) : Option Address :=
  match s.address?.map readLabel with
  | some (.address a) => some a
  | _ => none

/-- The claims of all the services. -/
def ofServices (ss : List Service) : Claims := ofList (ss.filterMap claimOf?)

/-- The services whose label is neither blank nor an address, each with that label's text. -/
def unreadable (ss : List Service) : List (Key × String) :=
  ss.filterMap fun s =>
    match s.address?.map readLabel with
    | some (.unreadable t) => some (s.key, t)
    | _ => none

end Claims

end Allotment
