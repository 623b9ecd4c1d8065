import Allotment.Text.Cut
import Allotment.Text.Decimal
import Allotment.Text.Pattern
/-!
# Fields of spans

A directive of a log filter may ask for a field of a span, and for the field's value:
a truth value, a number, or else whatever a pattern finds.
-/
namespace Allotment

open Text

/-- What the value of a field has to be. -/
inductive FieldValue where
  | truth (b : Bool)
  | real (x : Float)
  /-- A double that is no number. -/
  | undefined
  | natural (n : Nat)
  | integer (n : Int)
  | pattern (text : String)

namespace FieldValue

/-- A double, numbers apart from what is none. -/
def ofDouble (x : Float) : FieldValue := if x.isNaN then undefined else real x

/-- A whole number of 64 bits with a sign. -/
def int64? (cs : List Char) : Option Int :=
  let (negative, ds) := sign cs
  ((number? 10 ds).map fun n => if negative then -(n : Int) else n).filter fun n =>
    Int64.minValue.toInt ≤ n && n ≤ Int64.maxValue.toInt

/-- The value that a text states: of the kinds that can be read from it the first, a pattern last. -/
def ofChars? (cs : List Char) : Option FieldValue :=
  let s := String.ofList cs
  if s == "true" then some (truth true)
  else if s == "false" then some (truth false)
  else
    (count? UInt64.size s).map natural <|> (int64? cs).map integer <|> (double? cs).map ofDouble <|>
      if Pattern.isValid cs then some (pattern s) else none

def text : FieldValue → String
  | truth b => if b then "true" else "false"
  | real x => doubleText x
  | undefined => doubleText (0 / 0)
  | natural n => String.ofList (decimal n)
  | integer n => (if n < 0 then "-" else "") ++ String.ofList (decimal n.natAbs)
  | pattern s => s

/-- The place of a kind of values in the order of values. -/
def rank : FieldValue → Nat
  | truth _ => 0
  | real _ => 1
  | undefined => 2
  | natural _ => 3
  | integer _ => 4
  | pattern _ => 5

/-- The order of values: by kind, then by size or in the order of the alphabet. -/
def order : FieldValue → FieldValue → Ordering
  | truth a, truth b => compare a b
  | real x, real y => if x < y then .lt else if y < x then .gt else .eq
  | natural m, natural n => compare m n
  | integer m, integer n => compare m n
  | pattern s, pattern t => compare s t
  | v, w => compare v.rank w.rank

end FieldValue

/-- A field that a span has to have, perhaps with a given value. -/
structure LogField where
  name : String
  value : Option FieldValue

namespace LogField

/-- The field that a text states: its name and, behind an equals sign, its value, which ends at the next
equals sign. -/
def ofChars? (cs : List Char) : Option LogField :=
  match pieces '=' cs with
  | [] => none
  | [name] => some ⟨String.ofList name, none⟩
  | name :: value :: _ => (FieldValue.ofChars? value).map fun v => ⟨String.ofList name, some v⟩

def text (f : LogField) : String :=
  match f.value with
  | none => f.name
  | some v => f.name ++ "=" ++ v.text

/-- The order of fields: those without a value come first, then the names decide. -/
def order (f g : LogField) : Ordering :=
  (compare f.value.isSome g.value.isSome).then <| (compare f.name g.name).then <|
    match f.value, g.value with
    | some v, some w => v.order w
    | _, _ => .eq

end LogField

end Allotment
