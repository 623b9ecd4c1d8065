/-!
# Numerals

Digits in a base up to sixteen, read and written.  Reading takes the digits of
ASCII alone, in either case; writing uses lower case and no leading zeros.
-/
namespace Allotment.Text

/-- What a character stands for as a digit: `0`-`9`, then `a`-`f` in either case. -/
def digitValue? (c : Char) : Option Nat :=
  let n := c.toNat
  if 48 ≤ n ∧ n ≤ 57 then some (n - 48)
  else if 97 ≤ n ∧ n ≤ 102 then some (n - 87)
  else if 65 ≤ n ∧ n ≤ 70 then some (n - 55)
  else none

/-- What a character stands for as a digit of base `base`. -/
def digit? (base : Nat) (c : Char) : Option Nat :=
  (digitValue? c).filter (· < base)

/-- The number that `seen` followed by the digits `cs` stands for. -/
def digits? (base : Nat) (seen : Nat) : List Char → Option Nat
  | [] => some seen
  | c :: cs =>
    match digit? base c with
    | none => none
    | some d => digits? base (seen * base + d) cs

/-- The number that a non-empty run of digits stands for. -/
def number? (base : Nat) : List Char → Option Nat
  | [] => none
  | cs => digits? base 0 cs

/-- Whether a number is negative, and the text behind its sign. -/
def sign : List Char → Bool × List Char
  | '-' :: cs => (true, cs)
  | '+' :: cs => (false, cs)
  | cs => (false, cs)

/-- A number in decimal digits. -/
def decimal (n : Nat) : List Char := Nat.toDigits 10 n

/-- A number in hexadecimal digits. -/
def hexadecimal (n : Nat) : List Char := Nat.toDigits 16 n

/-- A count below a bound, written as decimal digits after an optional plus sign. -/
def count? (bound : Nat) (s : String) : Option Nat :=
  (number? 10 (match s.toList with
    | '+' :: cs => cs
    | cs => cs)).filter (· < bound)

end Allotment.Text
