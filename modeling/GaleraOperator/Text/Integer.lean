import GaleraOperator.Text.Digit

/-!
# Reading bounded integers

A number is read digit by digit, so the first digit that is not one, or that takes the value past its bound, is
the one that is reported.
-/

namespace GaleraOperator.Text

/-- Why a text is not an integer of the wanted range. -/
inductive IntegerFault where
  | empty
  | invalidDigit
  | tooLarge
  | tooSmall
  deriving DecidableEq, Repr

/-- The wording of an integer fault. -/
def IntegerFault.message : IntegerFault → String
  | .empty => "cannot parse integer from empty string"
  | .invalidDigit => "invalid digit found in string"
  | .tooLarge => "number too large to fit in target type"
  | .tooSmall => "number too small to fit in target type"

/-- Read ASCII digits onto `value`; `past` is the fault of a value above `bound`. -/
def readDigits (bound : Nat) (past : IntegerFault) : List Char → Nat → Except IntegerFault Nat
  | [], value => .ok value
  | c :: cs, value =>
    if c.isDigit then
      let next := value * 10 + digitValue c
      if next ≤ bound then readDigits bound past cs next else .error past
    else .error .invalidDigit

/-- Read a natural number up to `bound`, with an optional plus sign. -/
def readNatural (bound : Nat) : List Char → Except IntegerFault Nat
  | [] => .error .empty
  | ['+'] => .error .invalidDigit
  | '+' :: cs => readDigits bound .tooLarge cs 0
  | cs => readDigits bound .tooLarge cs 0

/-- Read an integer from `-bound - 1` to `bound`, with an optional sign. -/
def readInteger (bound : Nat) : List Char → Except IntegerFault Int
  | [] => .error .empty
  | ['+'] => .error .invalidDigit
  | ['-'] => .error .invalidDigit
  | '+' :: cs => (readDigits bound .tooLarge cs 0).map Int.ofNat
  | '-' :: cs => (readDigits (bound + 1) .tooSmall cs 0).map fun n ↦ -(n : Int)
  | cs => (readDigits bound .tooLarge cs 0).map Int.ofNat

/-- The largest unsigned 32-bit number. -/
abbrev maxU32 : Nat := 4294967295

/-- The largest unsigned 64-bit number. -/
abbrev maxU64 : Nat := 18446744073709551615

/-- The largest signed 64-bit number. -/
abbrev maxI64 : Nat := 9223372036854775807

end GaleraOperator.Text
