import GaleraOperator.Instant.Basic

/-!
# Writing instants

Dates and times in the format of RFC 3339. The precision of the part of a second and the way UTC is written depend
on where the instant stands.
-/

namespace GaleraOperator

open Calendar

/-- A number in decimal with at least `width` digits. -/
def zeroPadded (width n : Nat) : List Char :=
  let digits := Nat.toDigits 10 n
  List.replicate (width - digits.length) '0' ++ digits

/-- The year: four digits, with a sign where that is not enough. -/
def yearText (year : Int) : List Char :=
  if 0 ≤ year ∧ year ≤ 9999 then zeroPadded 4 year.toNat
  else (if year < 0 then '-' else '+') :: zeroPadded 4 year.natAbs

namespace Instant

/-- The parts of a second that are written. -/
inductive Precision where
  | seconds
  | micros
  /-- None, or the first of 3, 6 and 9 digits that is exact. -/
  | shortest
  deriving DecidableEq, Repr

/-- The part of a second after the point. -/
def Precision.fraction (p : Precision) (nano : Nat) : List Char :=
  match p with
  | .seconds => []
  | .micros => '.' :: zeroPadded 6 (nano / 1000)
  | .shortest =>
    if nano = 0 then []
    else if nano % 1000000 = 0 then '.' :: zeroPadded 3 (nano / 1000000)
    else if nano % 1000 = 0 then '.' :: zeroPadded 6 (nano / 1000)
    else '.' :: zeroPadded 9 nano

/-- Date and time without the mark of the time zone; a leap second is written as second 60. -/
def localText (t : Instant) (p : Precision) : List Char :=
  let date := Date.ofDay t.day
  let leap := if t.isLeapSecond then 1 else 0
  let nano := t.nano - leap * nanosPerSecond
  yearText date.year ++ '-' :: zeroPadded 2 date.month ++ '-' :: zeroPadded 2 date.day ++
    'T' :: zeroPadded 2 (t.second / 3600) ++ ':' :: zeroPadded 2 (t.second / 60 % 60) ++
    ':' :: zeroPadded 2 (t.second % 60 + leap) ++ p.fraction nano

/-- The text in conditions and reports. -/
def toRfc3339 (t : Instant) : String :=
  String.ofList (t.localText .shortest ++ ['+', '0', '0', ':', '0', '0'])

/-- The text of times in the cluster's objects and of the resize annotation: whole seconds. -/
def toSecondsText (t : Instant) : String := String.ofList (t.localText .seconds ++ ['Z'])

/-- The text of times that the cluster keeps to the microsecond. -/
def toMicrosText (t : Instant) : String := String.ofList (t.localText .micros ++ ['Z'])

end Instant

end GaleraOperator
