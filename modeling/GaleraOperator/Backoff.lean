import GaleraOperator.Error
import GaleraOperator.Text.Shortest

/-!
# Waiting before another attempt

Delays grow by a factor from one attempt to the next, are spread by a random share of themselves, and are cut at a
longest delay. The rule is stated for any arithmetic that has its operations; the operator computes in doubles, where
a delay that leaves the range of numbers becomes no number at all, and with it the shortest of delays.
-/

namespace GaleraOperator

/-- A span of time, in nanoseconds. -/
abbrev Duration := Nat

/-- One second. -/
def Duration.second : Duration := 1000000000

/-- One millisecond. -/
def Duration.millisecond : Duration := 1000000

/-- The numbers of seconds that delays are computed with. -/
class DelayArithmetic (ν : Type) where
  ofNat : Nat → ν
  add : ν → ν → ν
  sub : ν → ν → ν
  mul : ν → ν → ν
  div : ν → ν → ν
  /-- The greater of two numbers; what is not a number is passed over. -/
  max : ν → ν → ν
  /-- The lesser of two numbers; what is not a number is passed over. -/
  min : ν → ν → ν
  /-- Seconds as nanoseconds, the nearest number of them, and the even one halfway between two. -/
  nanos : ν → Duration

namespace DelayArithmetic

/-- `num / den`, to the nearest whole number, and to the even one halfway between two. -/
def roundedQuotient (num den : Nat) : Nat :=
  let below := num / den
  let twice := 2 * (num % den)
  if twice < den || (twice = den && below % 2 = 0) then below else below + 1

/-- Seconds in a double as nanoseconds. -/
def nanosOfFloat (x : Float) : Duration :=
  if x > 0 then
    let fraction := Text.BinaryFraction.ofFloat x
    if 0 ≤ fraction.exponent then fraction.mantissa * Nat.pow 2 fraction.exponent.toNat * Duration.second
    else roundedQuotient (fraction.mantissa * Duration.second) (Nat.pow 2 (-fraction.exponent).toNat)
  else 0

instance : DelayArithmetic Float where
  ofNat := Float.ofNat
  add := (· + ·)
  sub := (· - ·)
  mul := (· * ·)
  div := (· / ·)
  max x y := if x.isNaN then y else if y.isNaN then x else if x < y then y else x
  min x y := if x.isNaN then y else if y.isNaN then x else if y < x then y else x
  nanos := nanosOfFloat

variable {ν : Type} [DelayArithmetic ν]

/-- A span of time as seconds: the whole seconds and the rest are taken into the arithmetic one by one. -/
def seconds (d : Duration) : ν :=
  add (ofNat (d / Duration.second)) (div (ofNat (d % Duration.second)) (ofNat Duration.second))

/-- `result * square ^ n`, by squaring once for every binary digit of `n`. -/
def powerFrom (result square : ν) (n : Nat) : ν :=
  let result := if n % 2 = 1 then mul result square else result
  if _h : n / 2 = 0 then result else powerFrom result (mul square square) (n / 2)
termination_by n
decreasing_by omega

/-- A power with a whole exponent; a negative one gives the reciprocal. -/
def power (base : ν) (n : Int) : ν :=
  let size := powerFrom (ofNat 1) base n.natAbs
  if n < 0 then div (ofNat 1) size else size

end DelayArithmetic

/-- How delays grow. -/
structure Backoff (ν : Type) where
  /-- The first delay. -/
  initial : Duration
  /-- The longest delay. -/
  longest : Duration
  /-- The factor from one delay to the next. -/
  factor : ν
  /-- The share of a delay by which it is spread to either side. -/
  jitter : ν

namespace Backoff

open DelayArithmetic

variable {ν : Type} [DelayArithmetic ν]

/-- The delays between passes that fail. -/
def betweenPasses : Backoff ν := ⟨5 * .second, 300 * .second, ofNat 2, div (ofNat 1) (ofNat 10)⟩

/-- The delays between attempts to write that conflict. -/
def betweenWrites : Backoff ν := ⟨10 * .millisecond, .second, ofNat 2, div (ofNat 1) (ofNat 10)⟩

/-- The delays before lists that fail are begun anew. -/
def betweenLists : Backoff ν := ⟨1200 * .millisecond, 45 * .second, ofNat 2, div (ofNat 1) (ofNat 3)⟩

/-- The exponent of an attempt: its number, read as a signed 32-bit integer. -/
def exponent (attempt : UInt32) : Int := attempt.toInt32.toInt

/-- The delay after so many attempts before; `sample` is a random number from 0 up to 1. -/
def delay (b : Backoff ν) (sample : ν) (attempt : UInt32) : Duration :=
  let base := mul (seconds b.initial) (power b.factor (exponent attempt))
  let range := mul base b.jitter
  let jitter := sub (mul (mul sample range) (ofNat 2)) range
  nanos (min (max (add base jitter) (ofNat 0)) (seconds b.longest))

/-- The delay after an error: one that does not pass by itself waits longest. -/
def delayAfter (b : Backoff ν) (sample : ν) (e : Error) (attempt : UInt32) : Duration :=
  if e.isRetryable then b.delay sample attempt else b.longest

end Backoff

end GaleraOperator
