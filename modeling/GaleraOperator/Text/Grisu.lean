import GaleraOperator.Text.Shortest

/-!
# Grisu digits of a binary fraction

Digits that are found with integers of 64 bits alone. The numbers halfway to the two neighbours are multiplied by a
power of ten that brings them into a fixed range, and digits are written until what is left lies between them. The
result reads back as the same double, and mostly has the fewest digits that do, but not always: the products are
narrowed by one unit on each side, and after nine digits behind the point the last digit is no longer brought near.
-/

namespace GaleraOperator.Text.Grisu

/-- A number `significand * 2 ^ exponent`, with a significand of 64 bits. -/
structure Scaled where
  significand : Nat
  exponent : Int

/-- The number with the greatest bit of its significand set. -/
def Scaled.normalized (x : Scaled) : Scaled :=
  let shift := 63 - x.significand.log2
  ⟨x.significand * Nat.pow 2 shift, x.exponent - shift⟩

/-- The product, rounded to 64 bits. -/
def Scaled.mul (x y : Scaled) : Scaled :=
  ⟨(x.significand * y.significand + Nat.pow 2 63) / Nat.pow 2 64, x.exponent + y.exponent + 64⟩

/-- `num / den`, rounded to 64 bits, where the quotient has about `exponent + 64` bits. -/
def ofQuotient (num den : Nat) (exponent : Int) : Scaled :=
  let round (e : Int) : Nat :=
    let n := num * Nat.pow 2 (-e).toNat
    let d := den * Nat.pow 2 e.toNat
    (2 * n + d) / (2 * d)
  let wide := round exponent
  if wide < Nat.pow 2 63 then ⟨round (exponent - 1), exponent - 1⟩
  else if Nat.pow 2 64 ≤ wide then ⟨round (exponent + 1), exponent + 1⟩
  else ⟨wide, exponent⟩

/-- A power of ten, rounded to 64 bits. -/
def powerOfTen (power : Int) : Scaled :=
  let num := Nat.pow 10 power.toNat
  let den := Nat.pow 10 (-power).toNat
  ofQuotient num den ((num.log2 : Int) - den.log2 - 63)

/-- The power of ten that brings a number of the given exponent into range; every eighth one serves. -/
def powerFor (exponent : Int) : Int :=
  let least := -(-((-61 - exponent) * 30102999566398114 + 347 * 100000000000000000) / 100000000000000000)
  (least / 8 + 1) * 8 - 348

/-- Lower the last digit while that brings the number nearer to the one that is written: `rest` is how far it lies
below the upper end, `aim` how far it should, `width` how far it may, and `unit` is what the last digit counts. -/
def bringNear (width unit aim : Nat) : (steps digits rest : Nat) → Nat
  | 0, digits, _ => digits
  | steps + 1, digits, rest =>
    if rest < aim ∧ unit ≤ width - rest ∧ (rest + unit < aim ∨ rest + unit - aim < aim - rest) then
      bringNear width unit aim steps (digits - 1) (rest + unit)
    else digits

/-- Write digits of a fraction with `bits` bits, where `behind` of them were written already. The answer is all digits
and how many stand behind the point. -/
def fractionDigits (bits aim : Nat) : (steps digits fraction width behind : Nat) → Nat × Nat
  | 0, digits, _, _, behind => (digits, behind)
  | steps + 1, digits, fraction, width, behind =>
    let unit := Nat.pow 2 bits
    let digits := digits * 10 + fraction * 10 / unit
    let rest := fraction * 10 % unit
    let behind := behind + 1
    if rest < width * 10 then
      let factor := if behind < 9 then Nat.pow 10 behind else 0
      (bringNear (width * 10) unit (aim * factor % Nat.pow 2 64) 10 digits rest, behind)
    else fractionDigits bits aim steps digits rest (width * 10) behind

/-- Write digits of a number with a whole part of `places` digits and a fraction of `bits` bits. The answer is all
digits and the place of the last one. -/
def wholeDigits (bits width aim fraction : Nat) : (places digits whole : Nat) → Nat × Int
  | 0, digits, _ =>
    let (digits, behind) := fractionDigits bits aim 20 digits fraction width 0
    (digits, -(behind : Int))
  | places + 1, digits, whole =>
    let unit := Nat.pow 10 places
    let digits := digits * 10 + whole / unit
    let left := whole % unit
    let rest := left * Nat.pow 2 bits + fraction
    if rest ≤ width then (bringNear width (unit * Nat.pow 2 bits) aim 10 digits rest, places)
    else wholeDigits bits width aim fraction places digits left

/-- The digits of a binary fraction, and the place of the last one. -/
def digits (x : BinaryFraction) : Nat × Int :=
  let upper := Scaled.normalized ⟨2 * x.mantissa + 1, x.exponent - 1⟩
  let lower : Scaled :=
    if x.mantissa = Nat.pow 2 52 then ⟨4 * x.mantissa - 1, x.exponent - 2⟩ else ⟨2 * x.mantissa - 1, x.exponent - 1⟩
  let lower : Scaled := ⟨lower.significand * Nat.pow 2 (lower.exponent - upper.exponent).toNat, upper.exponent⟩
  let power := powerFor upper.exponent
  let scale := powerOfTen power
  let value := (Scaled.normalized ⟨x.mantissa, x.exponent⟩).mul scale
  let top := (upper.mul scale).significand - 1
  let bottom := (lower.mul scale).significand + 1
  let bits := (-(upper.mul scale).exponent).toNat
  let whole := top / Nat.pow 2 bits
  let (digits, place) :=
    wholeDigits bits (top - bottom) (top - value.significand) (top % Nat.pow 2 bits)
      (min 9 (decimalLength whole)) 0 whole
  (digits, place - power)

end GaleraOperator.Text.Grisu
