import Allotment.Json
import Allotment.Text.Numeral
/-!
# JSON text

Reading and writing JSON.  Of two members of an object with one name the later one
counts; a string may hold any character, escaped or not, but no half of a surrogate
pair.
-/
namespace Allotment.Json

open Text

/-! ## Reading -/

/-- The blanks between the tokens. -/
def isGap (c : Char) : Bool := c == ' ' || c == '\n' || c == '\r' || c == '\t'

def skipGap (cs : List Char) : List Char := cs.dropWhile isGap

/-- What a letter after a backslash stands for. -/
def escapeOf? : Char → Option Char
  | '"' => some '"'
  | '\\' => some '\\'
  | '/' => some '/'
  | 'b' => some '\x08'
  | 'f' => some '\x0c'
  | 'n' => some '\n'
  | 'r' => some '\r'
  | 't' => some '\t'
  | _ => none

/-- The rest of a string after its opening quote, and the text behind it.  `high` is the first half of a
surrogate pair that waits for its second; `seen` is what was read, last first. -/
def stringTail? (high : Option Nat) (seen : List Char) : List Char → Option (String × List Char)
  | '"' :: cs => if high.isSome then none else some (String.ofList seen.reverse, cs)
  | '\\' :: 'u' :: a :: b :: c :: d :: cs =>
    match number? 16 [a, b, c, d], high with
    | none, _ => none
    | some n, none =>
      if 0xd800 ≤ n ∧ n < 0xdc00 then stringTail? (some n) seen cs
      else if 0xdc00 ≤ n ∧ n < 0xe000 then none
      else stringTail? none (Char.ofNat n :: seen) cs
    | some n, some h =>
      if 0xdc00 ≤ n ∧ n < 0xe000 then
        stringTail? none (Char.ofNat (0x10000 + (h - 0xd800) * 0x400 + (n - 0xdc00)) :: seen) cs
      else none
  | '\\' :: e :: cs =>
    match escapeOf? e, high with
    | some c, none => stringTail? none (c :: seen) cs
    | _, _ => none
  | c :: cs => if high.isSome || c.toNat < 0x20 then none else stringTail? none (c :: seen) cs
  | [] => none

def isNumberChar (c : Char) : Bool :=
  c.isDigit || c == '-' || c == '+' || c == '.' || c == 'e' || c == 'E'

/-- The number that a lexeme stands for; a negative zero is not whole. -/
def ofLexeme (cs : List Char) : Json :=
  let other := real (String.ofList cs)
  match cs with
  | '-' :: ds =>
    match number? 10 ds with
    | some n => if 0 < n ∧ Int64.minValue.toInt ≤ -n then int (-n) else other
    | none => other
  | ds =>
    match number? 10 ds with
    | some n => if n < UInt64.size then int n else other
    | none => other

mutual

/-- The value that a text starts with, and the text behind it. -/
def value? : Nat → List Char → Option (Json × List Char)
  | 0, _ => none
  | fuel + 1, cs =>
    match skipGap cs with
    | 'n' :: 'u' :: 'l' :: 'l' :: cs => some (null, cs)
    | 't' :: 'r' :: 'u' :: 'e' :: cs => some (bool true, cs)
    | 'f' :: 'a' :: 'l' :: 's' :: 'e' :: cs => some (bool false, cs)
    | '"' :: cs => (stringTail? none [] cs).map fun (s, cs) => (str s, cs)
    | '[' :: cs =>
      match skipGap cs with
      | ']' :: cs => some (arr [], cs)
      | cs => (itemsTail? fuel cs).map fun (items, cs) => (arr items, cs)
    | '\x7b' :: cs =>
      match skipGap cs with
      | '\x7d' :: cs => some (obj [], cs)
      | cs => (membersTail? fuel [] cs).map fun (members, cs) => (obj members, cs)
    | cs =>
      match cs.takeWhile isNumberChar with
      | [] => none
      | lexeme => some (ofLexeme lexeme, cs.dropWhile isNumberChar)

/-- The items up to the closing bracket. -/
def itemsTail? : Nat → List Char → Option (List Json × List Char)
  | 0, _ => none
  | fuel + 1, cs =>
    (value? fuel cs).bind fun (item, cs) =>
      match skipGap cs with
      | ',' :: cs => (itemsTail? fuel cs).map fun (items, cs) => (item :: items, cs)
      | ']' :: cs => some ([item], cs)
      | _ => none

/-- The members up to the closing brace, after those in `seen`. -/
def membersTail? : Nat → List (String × Json) → List Char → Option (List (String × Json) × List Char)
  | 0, _, _ => none
  | fuel + 1, seen, cs =>
    match skipGap cs with
    | '"' :: cs =>
      (stringTail? none [] cs).bind fun (name, cs) =>
        match skipGap cs with
        | ':' :: cs =>
          (value? fuel cs).bind fun (v, cs) =>
            match skipGap cs with
            | ',' :: cs => membersTail? fuel (assign seen name v) cs
            | '\x7d' :: cs => some (assign seen name v, cs)
            | _ => none
        | _ => none
    | _ => none

end

/-- The value that a whole text stands for. -/
def ofText? (s : String) : Option Json :=
  let cs := s.toList
  match value? (cs.length + 1) cs with
  | some (v, rest) => if (skipGap rest).isEmpty then some v else none
  | none => none

/-! ## Writing -/

/-- One character of a string as it is written. -/
def escape (c : Char) : List Char :=
  if c = '"' then ['\\', '"']
  else if c = '\\' then ['\\', '\\']
  else if c.toNat < 0x20 then
    ['\\', 'u', '0', '0', Nat.digitChar (c.toNat / 16), Nat.digitChar (c.toNat % 16)]
  else [c]

def quote (s : String) : String := "\"" ++ String.ofList (s.toList.flatMap escape) ++ "\""

mutual

/-- The value as text on one line. -/
def text : Json → String
  | null => "null"
  | bool true => "true"
  | bool false => "false"
  | int n => toString n
  | real lexeme => lexeme
  | str s => quote s
  | arr items => "[" ++ itemsText items ++ "]"
  | obj members => "\x7b" ++ membersText members ++ "\x7d"

def itemsText : List Json → String
  | [] => ""
  | [v] => v.text
  | v :: vs => v.text ++ "," ++ itemsText vs

def membersText : List (String × Json) → String
  | [] => ""
  | [(name, v)] => quote name ++ ":" ++ v.text
  | (name, v) :: ms => quote name ++ ":" ++ v.text ++ "," ++ membersText ms

end

end Allotment.Json
