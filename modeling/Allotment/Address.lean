import Std.Data.ExtTreeSet
/-!
# Addresses

An address is a word of its family: 32 bits or 128.  All 32-bit addresses come
before all 128-bit ones, and within a family the order is numeric; `rank` is the
number that carries this order.
-/
namespace Allotment

/-- The two address families. -/
inductive Family where
  | v4
  | v6
deriving DecidableEq, Repr

namespace Family

/-- How many bits an address of the family has. -/
def width : Family → Nat
  | v4 => 32
  | v6 => 128

/-- How many addresses the family has: two to the power of its width. -/
def size : Family → Nat
  | v4 => 4294967296
  | v6 => 340282366920938463463374607431768211456

/-- The family's name in answers. -/
def text : Family → String
  | v4 => "v4"
  | v6 => "v6"

end Family

/-- An address: a word of its family's width. -/
inductive Address where
  | v4 (bits : BitVec 32)
  | v6 (bits : BitVec 128)
deriving DecidableEq, Repr

/-- The address of a family at a number, of which only the family's bits count. -/
def Family.address : Family → Nat → Address
  | v4, n => .v4 (BitVec.ofNat 32 n)
  | v6, n => .v6 (BitVec.ofNat 128 n)

namespace Address

def family : Address → Family
  | v4 _ => .v4
  | v6 _ => .v6

/-- The address as a number. -/
def value : Address → Nat
  | v4 bits => bits.toNat
  | v6 bits => bits.toNat

theorem value_lt (a : Address) : a.value < a.family.size := by
  cases a with
  | v4 bits => exact bits.isLt
  | v6 bits => exact bits.isLt

theorem family_address (f : Family) (n : Nat) : (f.address n).family = f := by
  cases f <;> rfl

theorem value_address (f : Family) (n : Nat) : (f.address n).value = n % f.size := by
  cases f <;> simp [Family.address, value, Family.size]

theorem address_value (a : Address) : a.family.address a.value = a := by
  cases a <;> simp [Family.address, value, family]

/-- Two addresses are equal if their families and their numbers are. -/
theorem ext_value {a b : Address} (hf : a.family = b.family) (hv : a.value = b.value) : a = b := by
  rw [← address_value a, ← address_value b, hf, hv]

/-- The place of an address among all addresses. -/
def rank : Address → Nat
  | v4 bits => bits.toNat
  | v6 bits => Family.v4.size + bits.toNat

theorem rank_injective {a b : Address} (h : a.rank = b.rank) : a = b := by
  cases a with
  | v4 x =>
    cases b with
    | v4 y => exact congrArg v4 (BitVec.eq_of_toNat_eq h)
    | v6 y => have := x.isLt; simp only [rank, Family.size] at h; omega
  | v6 x =>
    cases b with
    | v4 y => have := y.isLt; simp only [rank, Family.size] at h; omega
    | v6 y =>
      simp only [rank] at h
      exact congrArg v6 (BitVec.eq_of_toNat_eq (by omega))

instance : Ord Address := ⟨compareOn rank⟩

instance : Std.TransOrd Address := inferInstanceAs (Std.TransCmp (compareOn rank))

instance : Std.LawfulEqOrd Address where
  eq_of_compare {_ _} h := rank_injective (Std.LawfulEqOrd.eq_of_compare h)

end Address

end Allotment
