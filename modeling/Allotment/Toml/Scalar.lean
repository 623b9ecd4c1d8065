import Allotment.Text.Decimal
import Allotment.Text.Numeral
import Allotment.Toml
/-!
# Settings files: strings, numbers and dates

The reader of each scalar takes a text that starts with it and gives the value and the
text behind it.
-/
namespace Allotment.Toml

open Text

/-- Blanks within a line. -/
def isSpace (c : Char) : Bool := c == ' ' || c == '\t'

def skipSpace (cs : List Char) : List Char := cs.dropWhile isSpace

/-- The characters that text may hold as they are: no controls but the tab. -/
def isPlain (c : Char) : Bool := c == '\t' || (0x20 ≤ c.toNat && c.toNat != 0x7f)

/-- The text behind a line's end. -/
def newline? : List Char → Option (List Char)
  | '\n' :: cs => some cs
  | '\r' :: '\n' :: cs => some cs
  | _ => none

/-- The text behind a line's end, if it starts with one. -/
def skipNewline (cs : List Char) : List Char := (newline? cs).getD cs

/-! ## Strings -/

/-- What a letter after a backslash stands for. -/
def escapeOf? : Char → Option Char
  | 'b' => some '\x08'
  | 't' => some '\t'
  | 'n' => some '\n'
  | 'f' => some '\x0c'
  | 'r' => some '\r'
  | '"' => some '"'
  | '\\' => some '\\'
  | _ => none

/-- The character that hexadecimal digits stand for. -/
def scalar? (ds : List Char) : Option Char :=
  (number? 16 ds).bind fun n => if Nat.isValidChar n then some (Char.ofNat n) else none

/-- A string in double quotes after its opening one. -/
def basicTail? (seen : List Char) : List Char → Option (String × List Char)
  | '"' :: cs => some (String.ofList seen.reverse, cs)
  | '\\' :: 'u' :: a :: b :: c :: d :: cs =>
    match scalar? [a, b, c, d] with
    | some u => basicTail? (u :: seen) cs
    | none => none
  | '\\' :: 'U' :: a :: b :: c :: d :: e :: f :: g :: h :: cs =>
    match scalar? [a, b, c, d, e, f, g, h] with
    | some u => basicTail? (u :: seen) cs
    | none => none
  | '\\' :: c :: cs =>
    match escapeOf? c with
    | some u => basicTail? (u :: seen) cs
    | none => none
  | c :: cs => if isPlain c then basicTail? (c :: seen) cs else none
  | [] => none

/-- A string in single quotes after its opening one. -/
def literalTail? (seen : List Char) : List Char → Option (String × List Char)
  | '\'' :: cs => some (String.ofList seen.reverse, cs)
  | c :: cs => if isPlain c then literalTail? (c :: seen) cs else none
  | [] => none

/-- Whether a line ends here, blanks aside. -/
def endsLine (cs : List Char) : Bool := (newline? (skipSpace cs)).isSome

/-- A string in three double quotes after its opening ones.  Up to two quotes may stand before the
closing three; a backslash at the end of a line (`folding`) leaves out all blanks after it. -/
def longBasicTail? (folding : Bool) (seen : List Char) : List Char → Option (String × List Char)
  | '"' :: '"' :: '"' :: '"' :: '"' :: cs => some (String.ofList ('"' :: '"' :: seen).reverse, cs)
  | '"' :: '"' :: '"' :: '"' :: cs => some (String.ofList ('"' :: seen).reverse, cs)
  | '"' :: '"' :: '"' :: cs => some (String.ofList seen.reverse, cs)
  | '\\' :: 'u' :: a :: b :: c :: d :: cs =>
    match scalar? [a, b, c, d] with
    | some u => longBasicTail? false (u :: seen) cs
    | none => none
  | '\\' :: 'U' :: a :: b :: c :: d :: e :: f :: g :: h :: cs =>
    match scalar? [a, b, c, d, e, f, g, h] with
    | some u => longBasicTail? false (u :: seen) cs
    | none => none
  | '\\' :: c :: cs =>
    match escapeOf? c with
    | some u => longBasicTail? false (u :: seen) cs
    | none => if endsLine (c :: cs) then longBasicTail? true seen (c :: cs) else none
  | '\r' :: '\n' :: cs => longBasicTail? folding (if folding then seen else '\n' :: seen) cs
  | '\n' :: cs => longBasicTail? folding (if folding then seen else '\n' :: seen) cs
  | c :: cs =>
    if folding && isSpace c then longBasicTail? true seen cs
    else if isPlain c then longBasicTail? false (c :: seen) cs
    else none
  | [] => none

/-- A string in three single quotes after its opening ones. -/
def longLiteralTail? (seen : List Char) : List Char → Option (String × List Char)
  | '\'' :: '\'' :: '\'' :: '\'' :: '\'' :: cs => some (String.ofList ('\'' :: '\'' :: seen).reverse, cs)
  | '\'' :: '\'' :: '\'' :: '\'' :: cs => some (String.ofList ('\'' :: seen).reverse, cs)
  | '\'' :: '\'' :: '\'' :: cs => some (String.ofList seen.reverse, cs)
  | '\r' :: '\n' :: cs => longLiteralTail? ('\n' :: seen) cs
  | '\n' :: cs => longLiteralTail? ('\n' :: seen) cs
  | c :: cs => if isPlain c then longLiteralTail? (c :: seen) cs else none
  | [] => none

/-- A string in any of the four ways of quoting. -/
def string? : List Char → Option (String × List Char)
  | '"' :: '"' :: '"' :: cs => longBasicTail? false [] (skipNewline cs)
  | '"' :: cs => basicTail? [] cs
  | '\'' :: '\'' :: '\'' :: cs => longLiteralTail? [] (skipNewline cs)
  | '\'' :: cs => literalTail? [] cs
  | _ => none

/-! ## Numbers -/

/-- Digits of a base, single underscores between them, and the text behind them. -/
def digitRun (base : Nat) (seen : List Char) : List Char → List Char × List Char
  | '_' :: c :: cs =>
    if !seen.isEmpty && (digit? base c).isSome then digitRun base (c :: seen) cs
    else (seen.reverse, '_' :: c :: cs)
  | c :: cs => if (digit? base c).isSome then digitRun base (c :: seen) cs else (seen.reverse, c :: cs)
  | [] => (seen.reverse, [])

/-- The digits of a decimal number, which may not start with a superfluous zero. -/
def wholeDigits? (cs : List Char) : Option (List Char × List Char) :=
  match cs with
  | '0' :: cs => some (['0'], cs)
  | cs =>
    match digitRun 10 [] cs with
    | ([], _) => none
    | run => some run

/-- The number of a whole file is a word of 64 bits with a sign. -/
def int64? (n : Int) : Option Toml :=
  if Int64.minValue.toInt ≤ n ∧ n ≤ Int64.maxValue.toInt then some (int n) else none

/-- A whole number in a base of two, eight or sixteen after its mark. -/
def marked? (base : Nat) (cs : List Char) : Option (Toml × List Char) :=
  match digitRun base [] cs with
  | (ds, cs) => (number? base ds).bind fun n => (int64? n).map (·, cs)

/-- The digits after a point. -/
def fraction? : List Char → Option (List Char × List Char)
  | '.' :: cs =>
    match digitRun 10 [] cs with
    | ([], _) => none
    | run => some run
  | _ => none

/-- A power of ten. -/
def exponent? : List Char → Option (Int × List Char)
  | 'e' :: cs | 'E' :: cs =>
    match sign cs with
    | (negative, cs) =>
      match digitRun 10 [] cs with
      | (ds, cs) => (number? 10 ds).map fun n => ((if negative then -(n : Int) else n), cs)
  | _ => none

/-- A number with a fraction, an exponent or both. -/
def float? (cs : List Char) : Option (Toml × List Char) :=
  let (negative, cs) := sign cs
  (wholeDigits? cs).bind fun (whole, cs) =>
    let (part, behind) := (fraction? cs).getD ([], cs)
    let power := exponent? behind
    if part.isEmpty && power.isNone then none
    else
      let (e, behind) := power.getD (0, behind)
      let x := decimalFloat (whole ++ part) (e - part.length)
      if negative then some (float (-x), behind)
      else if x.isFinite then some (float x, behind) else none

/-- Infinity or no number. -/
def specialFloat? (cs : List Char) : Option (Toml × List Char) :=
  let (negative, cs) := sign cs
  match cs with
  | 'i' :: 'n' :: 'f' :: cs => some (float (if negative then -(1 / 0) else 1 / 0), cs)
  | 'n' :: 'a' :: 'n' :: cs => some (float (0 / 0), cs)
  | _ => none

/-- A whole number. -/
def integer? (cs : List Char) : Option (Toml × List Char) :=
  match cs with
  | '0' :: 'x' :: cs => marked? 16 cs
  | '0' :: 'o' :: cs => marked? 8 cs
  | '0' :: 'b' :: cs => marked? 2 cs
  | cs =>
    let (negative, cs) := sign cs
    (wholeDigits? cs).bind fun (ds, cs) =>
      (number? 10 ds).bind fun n => (int64? (if negative then -(n : Int) else n)).map (·, cs)

/-! ## Dates and times -/

/-- A number of exactly so many digits within bounds. -/
def fixed? (count low high : Nat) (cs : List Char) : Option (Nat × List Char) :=
  if (cs.take count).length = count then
    ((number? 10 (cs.take count)).filter fun n => low ≤ n && n ≤ high).map (·, cs.drop count)
  else none

/-- The text behind one given character. -/
def past? (c : Char) : List Char → Option (List Char)
  | d :: cs => if d = c then some cs else none
  | [] => none

def isLeapYear (y : Nat) : Bool := y % 4 == 0 && (y % 100 != 0 || y % 400 == 0)

def daysIn (y m : Nat) : Nat :=
  if m == 2 then (if isLeapYear y then 29 else 28)
  else if m == 4 || m == 6 || m == 9 || m == 11 then 30
  else 31

def date? (cs : List Char) : Option (List Char) := do
  let (y, cs) ← fixed? 4 0 9999 cs
  let (m, cs) ← fixed? 2 1 12 (← past? '-' cs)
  let (_, cs) ← fixed? 2 1 (daysIn y m) (← past? '-' cs)
  some cs

def time? (cs : List Char) : Option (List Char) := do
  let (_, cs) ← fixed? 2 0 23 cs
  let (_, cs) ← fixed? 2 0 59 (← past? ':' cs)
  let (_, cs) ← fixed? 2 0 60 (← past? ':' cs)
  match cs with
  | '.' :: d :: cs => if d.isDigit then some (cs.dropWhile Char.isDigit) else some ('.' :: d :: cs)
  | cs => some cs

/-- How far a time is from the universal one, if that is given. -/
def offset? (cs : List Char) : Option (List Char) :=
  match cs with
  | 'Z' :: cs | 'z' :: cs => some cs
  | '+' :: cs | '-' :: cs => do
    let (_, cs) ← fixed? 2 0 23 cs
    let (_, cs) ← fixed? 2 0 59 (← past? ':' cs)
    some cs
  | cs => some cs

/-- A date, a time, or a date and a time. -/
def moment? (cs : List Char) : Option (Toml × List Char) :=
  match date? cs with
  | some behind =>
    match behind with
    | d :: cs =>
      if d == 'T' || d == 't' || d == ' ' then
        match time? cs with
        | some cs => (offset? cs).map (moment, ·)
        | none => some (moment, behind)
      else some (moment, behind)
    | [] => some (moment, [])
  | none => (time? cs).map (moment, ·)

end Allotment.Toml
