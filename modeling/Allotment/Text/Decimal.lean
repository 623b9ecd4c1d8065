import Allotment.Text.Numeral
/-!
# Doubles in decimal notation

A double is written with the fewest digits that read back as the same double, and never
with a power of ten.  The search for them compares decimals with the bounds of the reals
that round to the double, all in whole numbers; what it
finds lies between these (`covers_of_nearest?`).
-/
namespace Allotment.Text

/-! ## Reading -/

/-- The number with the given decimal digits times a power of ten, rounded to the nearest double. -/
def decimalFloat (ds : List Char) (e : Int) : Float :=
  let n := (number? 10 ds).getD 0
  let magnitude := ((decimal n).length : Int) + e
  if n = 0 || magnitude < -400 then 0
  else if 400 < magnitude then 1 / 0
  else Float.ofScientific n (e < 0) e.natAbs

/-- The power of ten that a number ends with, if any. -/
def powerOfTen? : List Char → Option Int
  | [] => some 0
  | 'e' :: cs | 'E' :: cs =>
    let (negative, cs) := sign cs
    (number? 10 cs).map fun n => if negative then -(n : Int) else n
  | _ => none

/-- A number without a sign: digits, of which a point may stand before, between or behind, and a power of
ten; or, in any case of its letters, a word for infinity or for no number. -/
def magnitude? (cs : List Char) : Option Float :=
  let word := String.ofList (cs.map Char.toLower)
  if word == "inf" || word == "infinity" then some (1 / 0)
  else if word == "nan" then some (0 / 0)
  else
    let whole := cs.takeWhile Char.isDigit
    let (part, power) := match cs.drop whole.length with
      | '.' :: cs => (cs.takeWhile Char.isDigit, cs.dropWhile Char.isDigit)
      | cs => ([], cs)
    if whole.isEmpty && part.isEmpty then none
    else (powerOfTen? power).map fun e => decimalFloat (whole ++ part) (e - part.length)

/-- The double that a text states. -/
def double? (cs : List Char) : Option Float :=
  let (negative, cs) := sign cs
  (magnitude? cs).map fun x => if negative then -x else x

/-! ## Writing -/

/-- The size of a finite double: a whole number times a power of two. -/
structure Binary where
  mantissa : Nat
  exponent : Int

/-- A decimal number: a whole number times a power of ten. -/
structure Decimal where
  digits : Nat
  exponent : Int

namespace Binary

/-- The least mantissa of a double of full precision. -/
def unit : Nat := 1 <<< 52

/-- The size that the bits of a double stand for. -/
def ofBits (bits : UInt64) : Binary :=
  let part := bits.toNat % unit
  match bits.toNat / unit % 2048 with
  | 0 => ⟨part, -1074⟩
  | e + 1 => ⟨unit + part, e - 1074⟩

/-- How far the reals that round to this double reach below it, in quarters of its last place.  Below a
power of two the doubles stand twice as close. -/
def reachBelow (b : Binary) : Nat := if b.mantissa = unit && -1074 < b.exponent then 1 else 2

/-- A number of quarters of the last place, on a scale where these and the multiples of a power of ten with
the exponent `place` are whole (`decimalOnScale`). -/
def onScale (b : Binary) (place : Int) (quarters : Nat) : Nat :=
  (quarters <<< (b.exponent - 2).toNat) * Nat.pow 10 (-place).toNat

/-- A multiple of the power of ten with the exponent `place`, on the scale of `onScale`. -/
def decimalOnScale (b : Binary) (place : Int) (digits : Nat) : Nat :=
  (digits * Nat.pow 10 place.toNat) <<< (2 - b.exponent).toNat

/-- Whether a decimal rounds to this double: the ends of the range do if the mantissa is even. -/
def covers (b : Binary) (d : Decimal) : Bool :=
  let x := b.decimalOnScale d.exponent d.digits
  let low := b.onScale d.exponent (4 * b.mantissa - b.reachBelow)
  let high := b.onScale d.exponent (4 * b.mantissa + 2)
  if b.mantissa % 2 = 0 then low ≤ x && x ≤ high else low < x && x < high

/-- The multiple of a power of ten next to this double, if it rounds to the double: of two the nearer one,
and the greater if they are equally near. -/
def nearest? (b : Binary) (place : Int) : Option Decimal :=
  let value := b.onScale place (4 * b.mantissa)
  let below := value / b.decimalOnScale place 1
  let lower : Decimal := ⟨below, place⟩
  let upper : Decimal := ⟨below + 1, place⟩
  if b.covers lower && b.covers upper then
    let gapBelow := value - b.decimalOnScale place below
    let gapAbove := b.decimalOnScale place (below + 1) - value
    some (if gapBelow < gapAbove then lower else upper)
  else if b.covers lower then some lower
  else if b.covers upper then some upper
  else none

/-- What the search finds rounds to the double. -/
theorem covers_of_nearest? {b : Binary} {place : Int} {d : Decimal} (h : b.nearest? place = some d) :
    b.covers d = true := by
  simp only [nearest?] at h
  split at h
  · rename_i hboth
    simp only [Bool.and_eq_true] at hboth
    rw [Option.some.injEq] at h
    rw [← h]
    split
    · exact hboth.1
    · exact hboth.2
  · split at h
    · rename_i hl
      rw [← Option.some.inj h]; exact hl
    · split at h
      · rename_i hu
        rw [← Option.some.inj h]; exact hu
      · cases h

/-- The exponent of the first digit. -/
def leadingPlace (b : Binary) : Int :=
  let above := b.mantissa <<< b.exponent.toNat
  let below := 1 <<< (-b.exponent).toNat
  let guess : Int := ((decimal above).length : Int) - (decimal below).length
  if below * Nat.pow 10 guess.toNat ≤ above * Nat.pow 10 (-guess).toNat then guess else guess - 1

/-- The decimal with the fewest digits that rounds to this double, of several the nearest one. -/
def shortest (b : Binary) : Decimal :=
  ((List.range 17).findSome? fun (n : Nat) => b.nearest? (b.leadingPlace - n)).getD ⟨0, 0⟩

end Binary

/-- A decimal without a power of ten, and without zeros behind the last digit of a fraction. -/
def Decimal.text (d : Decimal) : List Char :=
  let places := (-d.exponent).toNat
  let ds := decimal (d.digits * Nat.pow 10 d.exponent.toNat)
  let ds := List.replicate (places + 1 - ds.length) '0' ++ ds
  let whole := ds.take (ds.length - places)
  let part := ((ds.drop (ds.length - places)).reverse.dropWhile (· == '0')).reverse
  if part.isEmpty then whole else whole ++ '.' :: part

/-- A double in the fewest digits that read back. -/
def doubleText (x : Float) : String :=
  if x.isNaN then "NaN"
  else
    let size := Binary.ofBits x.toBits
    let digits :=
      if x.isInf then "inf"
      else if size.mantissa = 0 then "0"
      else String.ofList size.shortest.text
    if x.toBits.toNat < 1 <<< 63 then digits else "-" ++ digits

end Allotment.Text
