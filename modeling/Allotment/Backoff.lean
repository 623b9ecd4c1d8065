/-!
# Backoff

How often a write is tried and how long to wait in between.  The delay grows by a
constant factor up to a ceiling; a random share of the jitter lengthens it.
-/
namespace Allotment

/-- How often and how fast to try again. -/
structure Backoff where
  /-- How many attempts are made; none counts as one. -/
  attempts : Nat
  /-- The first delay, in milliseconds. -/
  initialMillis : UInt64
  /-- By how much each delay exceeds the one before; below one counts as one. -/
  multiplier : Float
  /-- The longest delay, in milliseconds. -/
  ceilingMillis : UInt64
  /-- Up to which share of itself a delay may be lengthened. -/
  jitter : Float

/-- The larger of two numbers; a number that is none gives way to the other. -/
def greater (a b : Float) : Float :=
  if a.isNaN then b else if b.isNaN then a else if a < b then b else a

/-- The smaller of two numbers; a number that is none gives way to the other. -/
def lesser (a b : Float) : Float :=
  if a.isNaN then b else if b.isNaN then a else if b < a then b else a

/-- The product of `n` factors by repeated squaring, started from `acc`. -/
def powerFrom (acc base : Float) (n : Nat) : Float :=
  let acc := if n % 2 = 1 then acc * base else acc
  if h : n / 2 = 0 then acc else powerFrom acc (base * base) (n / 2)
termination_by n
decreasing_by omega

/-- A power by repeated squaring. -/
def power (base : Float) (n : Nat) : Float := powerFrom 1 base n

/-- The most squarings' worth of retries that the exponent can tell apart. -/
def exponentLimit : Nat := 2147483647

namespace Backoff

/-- Five attempts, ten milliseconds apart, lengthened by at most a tenth. -/
def standard : Backoff := ⟨5, 10, 1, 1000, 0.1⟩

/-- So many attempts with nothing in between. -/
def immediate (attempts : Nat) : Backoff := ⟨attempts, 0, 1, 0, 0⟩

/-- How many attempts are made. -/
def limit (b : Backoff) : Nat := max b.attempts 1

/-- The delay before the jitter, in milliseconds; `retry` counts from zero. -/
def baseMillis (b : Backoff) (retry : Nat) : UInt64 :=
  let factor := power (greater b.multiplier 1) (min retry exponentLimit)
  let millis := lesser (b.initialMillis.toFloat * factor) b.ceilingMillis.toFloat
  (greater millis 0).round.toUInt64

/-- Whether the delay is the base delay, whatever is drawn. -/
def isSteady (b : Backoff) (retry : Nat) : Bool := b.jitter ≤ 0 || b.baseMillis retry == 0

/-- How many seconds a delay can hold, as a number that is no longer one. -/
def secondsBound : Float := 18446744073709551616

/-- A number of seconds below the bound, in nanoseconds. -/
def nanosOfSeconds (secs : Float) : Nat :=
  let whole := secs.floor
  whole.toUInt64.toNat * 1000000000 + ((secs - whole) * 1000000000).round.toUInt64.toNat

/-- The delay in nanoseconds when `share` of the jitter is drawn, from none at 0 to all at 1.  There is
none if the jitter is no finite number or the delay is too long to be measured. -/
def delayNanos? (b : Backoff) (retry : Nat) (share : Float) : Option Nat :=
  let base := b.baseMillis retry
  let baseNanos := base.toNat * 1000000
  if b.isSteady retry then some baseNanos
  else if !b.jitter.isFinite then none
  else
    let baseSeconds := base.toFloat / 1000
    let extra := share * b.jitter * baseSeconds
    if baseSeconds + extra < secondsBound then some (baseNanos + nanosOfSeconds extra)
    else none

/-- The share of the jitter that the longest of so many draws takes on average. -/
def longestShare (draws : Nat) : Float := draws.toFloat / (draws + 1).toFloat

/-- The shortest delay, and the one to be expected as the longest of so many draws. -/
def delayBounds? (b : Backoff) (retry draws : Nat) : Option (Nat × Nat) :=
  (b.delayNanos? retry 0).bind fun low =>
    (b.delayNanos? retry (longestShare draws)).map fun high => (low, high)

end Backoff

end Allotment
