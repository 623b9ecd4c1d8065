import Allotment.Service
import Allotment.Vacancy
/-!
# The pool document

The texts that an administrator keeps under the names of pools.  One entry governs
a namespace: the first that is present in the order of precedence, readable or not.
-/
namespace Allotment

/-- Entries by key. -/
structure PoolDocument where
  entries : TextMap
deriving DecidableEq

namespace PoolDocument

def empty : PoolDocument := ⟨∅⟩

def get? (d : PoolDocument) (key : String) : Option String := d.entries[key]?

/-- The entry under the name of a pool. -/
def entry? (d : PoolDocument) (name : PoolName) : Option String := d.get? name.text

def insert (d : PoolDocument) (key text : String) : PoolDocument := ⟨d.entries.insert key text⟩

def size (d : PoolDocument) : Nat := d.entries.size

def isEmpty (d : PoolDocument) : Bool := d.entries.isEmpty

/-- The first of the names that has an entry, with that entry. -/
def firstOf? (d : PoolDocument) : List PoolName → Option (PoolName × String)
  | [] => none
  | name :: names =>
    match d.entry? name with
    | some text => some (name, text)
    | none => d.firstOf? names

/-- The pool that governs a namespace. -/
def governing (d : PoolDocument) (ns : String) : Except Failure NamedPool :=
  match d.firstOf? (PoolName.precedence ns) with
  | none => .error (.poolNotFound ns)
  | some (name, text) =>
    match Pool.ofEntry name.form text with
    | .ok pool => .ok ⟨name, pool⟩
    | .error reason => .error (.invalidPool name.text reason)

end PoolDocument

end Allotment
