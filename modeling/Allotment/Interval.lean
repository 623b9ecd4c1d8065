import Allotment.Address
/-!
# Intervals of addresses

A closed, non-empty interval of one family.  Its ends are numbers; membership,
size and the address at a number are read off them.
-/
namespace Allotment

/-- The addresses of a family from `first` to `last`, both included. -/
structure Interval where
  family : Family
  first : Nat
  last : Nat
  first_le_last : first ≤ last
  last_lt : last < family.size
deriving DecidableEq, Repr

namespace Interval

def firstAddress (s : Interval) : Address := s.family.address s.first

def lastAddress (s : Interval) : Address := s.family.address s.last

/-- The largest size that is counted exactly. -/
def sizeLimit : Nat := Family.v6.size - 1

/-- How many addresses the interval has; the whole of the wide family counts one less. -/
def size (s : Interval) : Nat := min (s.last - s.first + 1) sizeLimit

def contains (s : Interval) (a : Address) : Bool :=
  a.family == s.family && s.first ≤ a.value && a.value ≤ s.last

instance : Membership Address Interval := ⟨fun s a => s.contains a = true⟩

instance (a : Address) (s : Interval) : Decidable (a ∈ s) :=
  inferInstanceAs (Decidable (s.contains a = true))

theorem mem_iff {a : Address} {s : Interval} :
    a ∈ s ↔ a.family = s.family ∧ s.first ≤ a.value ∧ a.value ≤ s.last := by
  show s.contains a = true ↔ _
  simp [contains, and_assoc]

end Interval

end Allotment
