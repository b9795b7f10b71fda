import GaleraOperator.Error
import GaleraOperator.Text.Blank

/-!
# Storage quantities

Amounts of storage are written as a decimal number with an optional binary or decimal unit. They are compared, and
asked for, in whole allocation units, so that an amount the operator wrote itself is never seen as a different one.
Byte counts are below `2 ^ 64`; rounding one up may leave that range, and then has no result.
-/

namespace GaleraOperator.Quantity

/-- The number of bytes that storage is allocated in. -/
def allocationUnit : Nat := 1073741824

/-- Byte counts are below this. -/
def byteLimit : Nat := 18446744073709551616

/-- The number of bytes of a unit. -/
def unitBytes? : List Char → Option Nat
  | [] => some 1
  | ['K', 'i'] => some (Nat.pow 1024 1)
  | ['M', 'i'] => some (Nat.pow 1024 2)
  | ['G', 'i'] => some (Nat.pow 1024 3)
  | ['T', 'i'] => some (Nat.pow 1024 4)
  | ['P', 'i'] => some (Nat.pow 1024 5)
  | ['E', 'i'] => some (Nat.pow 1024 6)
  | ['k'] | ['K'] => some (Nat.pow 1000 1)
  | ['M'] => some (Nat.pow 1000 2)
  | ['G'] => some (Nat.pow 1000 3)
  | ['T'] => some (Nat.pow 1000 4)
  | ['P'] => some (Nat.pow 1000 5)
  | ['E'] => some (Nat.pow 1000 6)
  | _ => none

/-- A character of the number of a quantity. -/
def isNumberChar (c : Char) : Bool := c.isDigit || c = '.'

/-- `n / d` rounded up. -/
def ceilDiv (n d : Nat) : Nat := (n + d - 1) / d

/-- A number without units: the digits before the point and those after it. -/
def splitNumber (number : List Char) : List Char × List Char :=
  (number.takeWhile (· ≠ '.'), (number.dropWhile (· ≠ '.')).drop 1)

/-- The most digits after the point. -/
def maxPlaces : Nat := 18

/-- The bytes of a text without white space around it; a part of a byte counts as a whole one. The number and its
product with the unit have to fit 128 bits, the bytes 64. -/
def bytesOf? (text : List Char) : Option Nat := do
  let number := text.takeWhile isNumberChar
  let unit ← unitBytes? (text.dropWhile isNumberChar)
  let (whole, places) := splitNumber number
  if places.contains '.' || (whole.isEmpty && places.isEmpty) || maxPlaces < places.length then none
  let digits := (whole ++ places).foldl (fun n c ↦ n * 10 + Text.digitValue c) 0
  if Nat.pow 2 128 ≤ digits || Nat.pow 2 128 ≤ digits * unit then none
  let bytes := ceilDiv (digits * unit) (Nat.pow 10 places.length)
  if bytes < byteLimit then some bytes else none

/-- The bytes of a quantity. -/
def bytes (value : String) : Except Error Nat :=
  let text := Text.trim value.toList
  match bytesOf? text with
  | some n => .ok n
  | none => .error (.quantity (String.ofList text))

/-- The least whole number of allocation units that holds so many bytes, in bytes. -/
def alignedTo (bytes : Nat) : Nat := ceilDiv bytes allocationUnit * allocationUnit

/-- Round a byte count up to whole allocation units. -/
def roundUp (bytes : Nat) : Except Overflow Nat :=
  if alignedTo bytes < byteLimit then .ok (alignedTo bytes) else .error .multiplication

/-- The text of a byte count in whole allocation units. -/
def ofBytes (bytes : Nat) : Except Overflow String :=
  (roundUp bytes).map fun aligned ↦ toString (aligned / allocationUnit) ++ "Gi"

/-- The bytes of a quantity in whole allocation units. -/
def alignedBytes (value : String) : Except Failure Nat :=
  match bytes value with
  | .error e => .error (.error e)
  | .ok n => (roundUp n).mapError .overflow

end GaleraOperator.Quantity
