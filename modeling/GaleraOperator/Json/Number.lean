import GaleraOperator.Text.Shortest

/-!
# Numbers of JSON documents

An integer of 64 bits is kept as it is. Every other number is kept as it was written, and denotes the double that
its parts lead to step by step: a number that none of the finite doubles is near is no number at all.
-/

namespace GaleraOperator.Json

/-- A number as it was written: an integer, or `significand * 10 ^ exponent` with a sign. -/
inductive Number where
  | integer (value : Int)
  | decimal (negative : Bool) (significand : Nat) (exponent : Int)
  deriving DecidableEq, Repr

namespace Number

/-- The powers of ten up to this one are doubles. -/
def maxPower : Nat := 308

/-- A power of ten as a double. -/
def power (exponent : Nat) : Float := Float.ofScientific 1 false exponent

/-- `size * 10 ^ exponent` in doubles, unless that is too large for one. A division by a greater power than there is
takes several steps, of which three leave nothing of a number of 64 bits. -/
def scale : (steps : Nat) → (size : Float) → (exponent : Int) → Option Float
  | 0, _, _ => some 0
  | steps + 1, size, exponent =>
    if exponent.natAbs ≤ maxPower then
      if exponent < 0 then some (size / power exponent.natAbs)
      else
        let scaled := size * power exponent.natAbs
        if scaled.isInf then none else some scaled
    else if size == 0 then some size
    else if exponent < 0 then scale steps (size / power maxPower) (exponent + maxPower)
    else none

/-- The double that a number denotes, unless it is too large for one. -/
def toFloat? : Number → Option Float
  | .integer value => some (Float.ofInt value)
  | .decimal negative significand exponent =>
    (scale 4 (Float.ofNat significand) exponent).map fun size ↦ if negative then -size else size

/-- The double that a number denotes; one that is too large counts as infinite. -/
def toFloat (n : Number) : Float := n.toFloat?.getD (1.0 / 0.0)

/-- Doubles are written in full as long as at most sixteen digits stand before the point, or four zeros behind it. -/
def format : Text.DecimalFormat where
  mostWhole := 16
  mostZeros := 4
  wholeEnd := ['.', '0']
  powerSign := ['+']
  infinity := "null"
  notANumber := "null"

/-- The text of a number; one that is no integer is written as the shortest decimal of its double. -/
def text : Number → String
  | .integer value => toString value
  | n => format.text n.toFloat

end Number

end GaleraOperator.Json
