/-!
# Shortest decimal text of a binary fraction

A double is the set of reals that round to it. Its text has the fewest digits that lie in that set, and of those
the digits nearest to the double. All arithmetic is exact.
-/

namespace GaleraOperator.Text

/-- A positive double `mantissa * 2 ^ exponent` with the distance to its neighbours: the interval that rounds to it
reaches half a step up and half a step (a quarter at a power of two) down, ends included when the mantissa is even. -/
structure BinaryFraction where
  mantissa : Nat
  exponent : Int
  /-- The double below is only half a step away. -/
  atPowerOfTwo : Bool

/-- The parts of a finite, positive double. -/
def BinaryFraction.ofFloat (x : Float) : BinaryFraction :=
  let bits := x.toBits.toNat
  let fraction : Nat := bits % Nat.pow 2 52
  let biased : Nat := bits / Nat.pow 2 52 % Nat.pow 2 11
  if biased = 0 then ⟨fraction, -1074, false⟩
  else ⟨fraction + Nat.pow 2 52, (biased : Int) - 1075, fraction = 0 && biased ≠ 1⟩

/-- `num / den` scaled by `10 ^ (-place)`, as a fraction of naturals. -/
def scaleByTen (num den : Nat) (place : Int) : Nat × Nat :=
  if 0 ≤ place then (num, den * Nat.pow 10 place.toNat) else (num * Nat.pow 10 (-place).toNat, den)

/-- The multiple of `10 ^ place` that lies in the interval of `x` and is nearest to it, if there is one. -/
def BinaryFraction.digitsAt? (x : BinaryFraction) (place : Int) : Option Nat :=
  -- In units of a quarter step: the value, its lower end and its upper end.
  let middle := 4 * x.mantissa
  let lower := if x.atPowerOfTwo then middle - 1 else middle - 2
  let upper := middle + 2
  let quarter := x.exponent - 2
  let scaled (m : Nat) : Nat × Nat :=
    if 0 ≤ quarter then scaleByTen (m * Nat.pow 2 quarter.toNat) 1 place
    else scaleByTen m (Nat.pow 2 (-quarter).toNat) place
  let closed := x.mantissa % 2 = 0
  let (num, den) := scaled middle
  let below := num / den
  let inside (d : Nat) : Bool :=
    let (lowNum, lowDen) := scaled lower
    let (highNum, highDen) := scaled upper
    if closed then lowNum ≤ d * lowDen && d * highDen ≤ highNum
    else lowNum < d * lowDen && d * highDen < highNum
  let candidates := [below, below + 1].filter fun d ↦ 0 < d && inside d
  match candidates with
  | [] => none
  | [d] => some d
  | d :: _ =>
    -- `2 * num` against `(2 * d + 1) * den` decides which neighbour is nearer; a tie goes to the even one.
    let twice := 2 * num
    let midway := (2 * d + 1) * den
    if twice < midway then some d
    else if midway < twice then some (d + 1)
    else if d % 2 = 0 then some d else some (d + 1)

/-- The number of decimal digits of a natural number. -/
def decimalLength (n : Nat) : Nat := (Nat.toDigits 10 n).length

/-- The coarsest decimal grid from `place` downwards that meets the interval. -/
def BinaryFraction.shortestFrom (x : BinaryFraction) : Nat → Int → Nat × Int
  | 0, place => (0, place)
  | tries + 1, place =>
    match x.digitsAt? place with
    | some d => (d, place)
    | none => x.shortestFrom tries (place - 1)

/-- The power of ten just above a positive number `mantissa * 2 ^ exponent`, or one more. -/
def BinaryFraction.magnitude (x : BinaryFraction) : Int :=
  if 0 ≤ x.exponent then (decimalLength (x.mantissa * Nat.pow 2 x.exponent.toNat) : Int)
  else
    -- `m / 2^k = m * 5^k / 10^k`
    let k := (-x.exponent).toNat
    (decimalLength (x.mantissa * Nat.pow 5 k) : Int) - k

/-- Digits and the place of the last of them, without trailing zeros: the shortest decimal that reads back. -/
def BinaryFraction.shortest (x : BinaryFraction) : Nat × Int :=
  x.shortestFrom 20 x.magnitude

/-- Where decimal texts switch between positional and scientific notation. -/
structure DecimalFormat where
  /-- Largest count of digits before the point that is written out. -/
  mostWhole : Int
  /-- Most zeros after the point, before the first digit, that are written out. -/
  mostZeros : Int
  /-- What ends a whole number. -/
  wholeEnd : List Char
  /-- What stands before a power of ten that is not negative. -/
  powerSign : List Char
  infinity : String
  notANumber : String

/-- `digits * 10 ^ place` in the given format. -/
def DecimalFormat.render (f : DecimalFormat) (digits : Nat) (place : Int) : List Char :=
  let ds := Nat.toDigits 10 digits
  let length : Int := ds.length
  let whole := length + place
  if 0 ≤ place ∧ whole ≤ f.mostWhole then
    ds ++ List.replicate place.toNat '0' ++ f.wholeEnd
  else if 0 < whole ∧ whole ≤ f.mostWhole then
    ds.take whole.toNat ++ '.' :: ds.drop whole.toNat
  else if -f.mostZeros ≤ whole ∧ whole ≤ 0 then
    '0' :: '.' :: List.replicate (-whole).toNat '0' ++ ds
  else
    let power := (if whole < 1 then [] else f.powerSign) ++ (toString (whole - 1)).toList
    match ds with
    | [d] => d :: 'e' :: power
    | d :: rest => d :: '.' :: rest ++ 'e' :: power
    | [] => []

/-- The text of a double whose digits are found by `digits`, the place of the last of them with them. -/
def DecimalFormat.textWith (f : DecimalFormat) (digits : BinaryFraction → Nat × Int) (x : Float) : String :=
  if x.isNaN then f.notANumber
  else
    let sign := if x.toBits.toNat < Nat.pow 2 63 then "" else "-"
    let size := x.abs
    if size.isInf then sign ++ f.infinity
    else if size == 0 then sign ++ "0" ++ String.ofList f.wholeEnd
    else
      let (digits, place) := digits (.ofFloat size)
      sign ++ String.ofList (f.render digits place)

/-- The text of a double in its shortest digits. -/
def DecimalFormat.text (f : DecimalFormat) (x : Float) : String := f.textWith BinaryFraction.shortest x

end GaleraOperator.Text
