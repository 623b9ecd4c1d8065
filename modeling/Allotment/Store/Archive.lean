import Allotment.Pool.Document
/-!
# The archive of documents

A store of pool documents in memory.  Creating a document never replaces one.
-/
namespace Allotment

/-- Documents by namespace and name, with what disturbs the calls. -/
structure Archive where
  documents : Std.ExtTreeMap Key PoolDocument
  unavailable : Bool
  /-- How often a creation was tried. -/
  createCalls : UInt64
deriving DecidableEq

namespace Archive

def empty : Archive := ⟨∅, false, 0⟩

def peek? (a : Archive) (key : Key) : Option PoolDocument := a.documents[key]?

/-- Stores the document, in place of any that is there. -/
def put (a : Archive) (key : Key) (d : PoolDocument) : Archive :=
  { a with documents := a.documents.insert key d }

/-- Every stored document with its key, ascending. -/
def toList (a : Archive) : List (Key × PoolDocument) := a.documents.toList

/-- The fault that every call meets while the archive is unreachable. -/
def outage : StoreFault := .connection "configuration store unavailable"

def get (a : Archive) (key : Key) : Except StoreFault PoolDocument :=
  if a.unavailable then .error outage
  else match a.peek? key with
    | some d => .ok d
    | none => .error (.notFound .document key)

/-- The archive after a call for a creation was counted. -/
def counted (a : Archive) : Archive := { a with createCalls := a.createCalls + 1 }

/-- The stored document, or a new empty one where there is none. -/
def create (a : Archive) (key : Key) : Except StoreFault PoolDocument × Archive :=
  let a := a.counted
  if a.unavailable then (.error outage, a)
  else match a.peek? key with
    | some d => (.ok d, a)
    | none => (.ok .empty, a.put key .empty)

end Archive

end Allotment
