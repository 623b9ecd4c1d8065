import Allotment.Address.Text
import Allotment.Interval
/-!
# Blocks

A block is an address and a prefix length: the addresses that agree with it on so
many leading bits.  Its usable hosts leave out the network address and, in the
narrow family, the broadcast address; blocks of one or two addresses are used whole.
-/
namespace Allotment

open Text

/-- An address and how many of its leading bits the block fixes. -/
structure Block where
  address : Address
  length : Nat
  length_le : length ≤ address.family.width
deriving DecidableEq, Repr

/-- How many digits a prefix length may have. -/
def Family.lengthDigits : Family → Nat
  | .v4 => 2
  | .v6 => 3

namespace Block

/-- How many trailing bits are free. -/
def hostBits (b : Block) : Nat := b.address.family.width - b.length

/-- How many addresses the block has. -/
def size (b : Block) : Nat := 1 <<< b.hostBits

/-- The lowest number of the block: all free bits zero. -/
def network (b : Block) : Nat := b.address.value / b.size * b.size

/-- The highest number of the block: all free bits one. -/
def broadcast (b : Block) : Nat := b.network + (b.size - 1)

theorem size_pos (b : Block) : 0 < b.size := by
  rw [size, Nat.one_shiftLeft]
  exact Nat.two_pow_pos _

/-- A family is divided evenly by its blocks of one length. -/
theorem shiftLeft_length_mul_size (b : Block) : (1 <<< b.length) * b.size = b.address.family.size := by
  rw [size, Nat.one_shiftLeft, Nat.one_shiftLeft, ← Nat.pow_add, hostBits,
    Nat.add_sub_cancel' b.length_le]
  cases b.address.family <;> rfl

theorem broadcast_lt (b : Block) : b.broadcast < b.address.family.size := by
  have hpos := b.size_pos
  have hsplit := b.shiftLeft_length_mul_size
  have hq : b.address.value / b.size < 1 <<< b.length := by
    rw [Nat.div_lt_iff_lt_mul hpos, hsplit]
    exact b.address.value_lt
  have hle : (b.address.value / b.size + 1) * b.size ≤ b.address.family.size := by
    rw [← hsplit]
    exact Nat.mul_le_mul_right _ hq
  rw [Nat.succ_mul] at hle
  simp only [broadcast, network]
  omega

/-- Whether the block has addresses that are not for hosts: it has more than two. -/
def isReserving (b : Block) : Bool := b.length + 1 < b.address.family.width

/-- The lowest number for a host. -/
def firstHost (b : Block) : Nat := if b.isReserving then b.network + 1 else b.network

/-- The highest number for a host. -/
def lastHost (b : Block) : Nat :=
  match b.isReserving, b.address.family with
  | true, .v4 => b.broadcast - 1
  | _, _ => b.broadcast

theorem lastHost_le (b : Block) : b.lastHost ≤ b.broadcast := by
  unfold lastHost
  split
  · exact Nat.sub_le _ _
  · exact Nat.le_refl _

/-- The usable hosts, if there are any. -/
def hosts? (b : Block) : Option Interval :=
  if h : b.firstHost ≤ b.lastHost then
    some ⟨b.address.family, b.firstHost, b.lastHost, h,
      Nat.lt_of_le_of_lt b.lastHost_le b.broadcast_lt⟩
  else none

/-- The network address and the prefix length. -/
def text (b : Block) : String :=
  (b.address.family.address b.network).text ++ "/" ++ toString b.length

/-- The block that a text `address/length` stands for, blanks not allowed. -/
def ofChars? (cs : List Char) : Option Block :=
  (cut? '/' cs).bind fun (front, back) =>
    (Address.ofChars? .block front).bind fun a =>
      if back.length ≤ a.family.lengthDigits then
        (number? 10 back).bind fun n =>
          if h : n ≤ a.family.width then some ⟨a, n, h⟩ else none
      else none

end Block

end Allotment
