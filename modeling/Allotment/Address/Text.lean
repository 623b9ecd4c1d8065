import Allotment.Address
import Allotment.Text.Cut
import Allotment.Text.Numeral
/-!
# The text of an address

Writing: four octets in decimal, or eight groups in hexadecimal of which the first
of the longest runs of at least two zero groups is written `::`.  An address in
`::ffff:0:0/96` ends in four octets.

Reading comes in two grammars that differ in what they forgive: superfluous zeros
in front of an octet, and a `::` that stands for no group at all.
-/
namespace Allotment

open Text

/-! ## Writing -/

/-- The number's digits in base `base`, the highest of `count` first. -/
def places (base : Nat) : Nat → Nat → List Nat
  | 0, _ => []
  | count + 1, n => places base count (n / base) ++ [n % base]

/-- The number with the given digits, the highest first. -/
def ofPlaces (base : Nat) (ds : List Nat) : Nat := ds.foldl (fun n d => n * base + d) 0

/-- Four octets, separated by dots. -/
def dotted (n : Nat) : List Char := joined '.' ((places 256 4 n).map decimal)

/-- How many zero groups a list of groups starts with. -/
def zeroRun (gs : List Nat) : Nat := (gs.takeWhile (· == 0)).length

/-- Start and length of the longest run of zero groups, of equally long ones the first. -/
def longestZeroRun : List Nat → Nat × Nat
  | [] => (0, 0)
  | g :: gs =>
    let (start, length) := longestZeroRun gs
    if length ≤ zeroRun (g :: gs) then (0, zeroRun (g :: gs)) else (start + 1, length)

/-- Groups in hexadecimal, separated by colons. -/
def colonGroups (gs : List Nat) : List Char := joined ':' (gs.map hexadecimal)

/-- Eight groups, the first longest run of two or more zero groups elided. -/
def elidedGroups (gs : List Nat) : List Char :=
  let (start, length) := longestZeroRun gs
  if 1 < length then
    colonGroups (gs.take start) ++ ':' :: ':' :: colonGroups (gs.drop (start + length))
  else colonGroups gs

namespace Address

def chars : Address → List Char
  | v4 bits => dotted bits.toNat
  | v6 bits =>
    if bits.toNat / Family.v4.size = 0xffff then
      "::ffff:".toList ++ dotted (bits.toNat % Family.v4.size)
    else elidedGroups (places 65536 8 bits.toNat)

/-- The address as text. -/
def text (a : Address) : String := String.ofList a.chars

end Address

/-! ## Reading -/

/-- What a reader of addresses forgives. -/
structure Leniency where
  /-- An octet may start with superfluous zeros. -/
  paddedOctets : Bool
  /-- An elision may stand for no group, if at most seven groups precede it. -/
  emptyElision : Bool
deriving DecidableEq, Repr

/-- The grammar of a single address: nothing is forgiven. -/
def Leniency.strict : Leniency := ⟨false, false⟩

/-- The grammar of the address of a block. -/
def Leniency.block : Leniency := ⟨true, true⟩

/-- An octet has one to three digits and is below 256. -/
def octet? (l : Leniency) (cs : List Char) : Option Nat :=
  if cs.length ≤ 3 ∧ (l.paddedOctets ∨ cs.length ≤ 1 ∨ cs.head? ≠ some '0') then
    (number? 10 cs).filter (· < 256)
  else none

/-- Four octets, as a number. -/
def dotted? (l : Leniency) (cs : List Char) : Option Nat :=
  match (pieces '.' cs).mapM (octet? l) with
  | some [a, b, c, d] => some (ofPlaces 256 [a, b, c, d])
  | _ => none

/-- A group has one to four hexadecimal digits. -/
def group? (cs : List Char) : Option Nat :=
  if cs.length ≤ 4 then number? 16 cs else none

/-- Groups, of which the last two may be written as four octets if `octets` is given. -/
def groups? (octets : Option Leniency) : List (List Char) → Option (List Nat)
  | [] => some []
  | [p] =>
    match group? p with
    | some g => some [g]
    | none => octets.bind fun l => (dotted? l p).map fun n => places 65536 2 n
  | p :: ps => (group? p).bind fun g => (groups? octets ps).map (g :: ·)

/-- The groups on one side of an elision: none if nothing is written there. -/
def sideGroups? (octets : Option Leniency) : List Char → Option (List Nat)
  | [] => some []
  | cs => groups? octets (pieces ':' cs)

/-- The text before the first `::` and the text after it. -/
def elision? : List Char → Option (List Char × List Char)
  | ':' :: ':' :: cs => some ([], cs)
  | c :: cs => (elision? cs).map fun p => (c :: p.1, p.2)
  | [] => none

/-- The eight groups of a 128-bit address. -/
def eightGroups? (l : Leniency) (cs : List Char) : Option (List Nat) :=
  match elision? cs with
  | none => (groups? (some l) (pieces ':' cs)).filter (·.length == 8)
  | some (before, after) =>
    (sideGroups? none before).bind fun hs =>
      (sideGroups? (some l) after).bind fun ts =>
        if hs.length ≤ 7 ∧ hs.length + ts.length ≤ (if l.emptyElision then 8 else 7) then
          some (hs ++ List.replicate (8 - hs.length - ts.length) 0 ++ ts)
        else none

namespace Address

def ofChars? (l : Leniency) (cs : List Char) : Option Address :=
  match dotted? l cs with
  | some n => some (Family.v4.address n)
  | none => (eightGroups? l cs).map fun gs => Family.v6.address (ofPlaces 65536 gs)

/-- The address that a text stands for, blanks not allowed. -/
def ofText? (s : String) : Option Address := ofChars? .strict s.toList

end Address

end Allotment
