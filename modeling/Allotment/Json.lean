/-!
# JSON values

A value of JSON.  Whole numbers of 64 bits are told apart from all others, because
only they can be versions and counts; the others are kept as they are written.
-/
namespace Allotment

/-- A JSON value; the members of an object in the order in which they are written. -/
inductive Json where
  | null
  | bool (b : Bool)
  | int (n : Int)
  /-- A number with a fraction or an exponent, or beyond the words of 64 bits. -/
  | real (lexeme : String)
  | str (s : String)
  | arr (items : List Json)
  | obj (members : List (String × Json))
deriving Repr, Inhabited

namespace Json

/-- The member of an object with the given name. -/
def member? (name : String) : Json → Option Json
  | obj members => members.lookup name
  | _ => none

def string? : Json → Option String
  | str s => some s
  | _ => none

/-- A whole number below a bound. -/
def below? (bound : Nat) : Json → Option Nat
  | int n => if 0 ≤ n ∧ n.toNat < bound then some n.toNat else none
  | _ => none

/-- The members with one replaced, or added at the end. -/
def assign (members : List (String × Json)) (name : String) (v : Json) : List (String × Json) :=
  if (members.lookup name).isSome then
    members.map fun m => if m.1 == name then (name, v) else m
  else members ++ [(name, v)]

end Json

end Allotment
