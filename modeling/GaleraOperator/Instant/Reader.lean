import GaleraOperator.Instant.Basic
import GaleraOperator.Text.Blank
import GaleraOperator.Text.Integer

/-!
# Reading instants

Two readers of dates and times: the strict one takes RFC 3339 (a blank may stand for the `T`), the relaxed one also
numbers with fewer digits, signed years and white space between the parts. Both work from left to right, and the
first thing that does not fit is reported.
-/

namespace GaleraOperator

open Calendar

namespace Instant

/-- Why a text is not a date and time. -/
inductive Fault where
  | premature
  | invalid
  | outOfRange
  | trailing
  | impossible
  deriving DecidableEq, Repr

/-- The wording of a time fault. -/
def Fault.message : Fault → String
  | .premature => "premature end of input"
  | .invalid => "input contains invalid characters"
  | .outOfRange => "input is out of range"
  | .trailing => "trailing input"
  | .impossible => "no possible date and time matching input"

namespace Reader

/-- Exactly `count` digits onto `value`. -/
def fixedDigits : (count : Nat) → (value : Nat) → List Char → Except Fault (Nat × List Char)
  | 0, value, cs => .ok (value, cs)
  | _ + 1, _, [] => .error .invalid
  | count + 1, value, c :: cs =>
    if c.isDigit then fixedDigits count (value * 10 + Text.digitValue c) cs else .error .invalid

/-- One of the given characters. -/
def oneOf (allowed : List Char) : List Char → Except Fault (Unit × List Char)
  | [] => .error .invalid
  | c :: cs => if allowed.contains c then .ok ((), cs) else .error .invalid

/-- The part of a second after the point, in nanoseconds; digits after the ninth do not count. -/
def fraction (cs : List Char) : Except Fault (Nat × List Char) :=
  match cs with
  | [] => .error .premature
  | c :: _ =>
    if c.isDigit then
      let digits := (cs.takeWhile Char.isDigit).take 9
      let value := digits.foldl (fun n c ↦ n * 10 + Text.digitValue c) 0
      .ok (value * Nat.pow 10 (9 - digits.length), cs.dropWhile Char.isDigit)
    else .error .invalid

/-- The two digits of the minutes of an offset. -/
def offsetMinutes (cs : List Char) : Except Fault (Nat × List Char) :=
  -- Two bytes have to be there before they are looked at.
  if (String.ofList cs).utf8ByteSize < 2 then .error .premature
  else
    match cs with
    | a :: b :: rest =>
      if '0' ≤ a ∧ a ≤ '5' ∧ b.isDigit then .ok (Text.digitValue a * 10 + Text.digitValue b, rest)
      else if '6' ≤ a ∧ a ≤ '9' ∧ b.isDigit then .error .outOfRange
      else .error .invalid
    | _ => .error .invalid

/-- The distance to UTC in seconds; `colon` reads what stands between hours and minutes. -/
def offset (colon : List Char → Except Fault (List Char)) (cs : List Char) : Except Fault (Int × List Char) :=
  match cs with
  | [] => .error .premature
  | 'Z' :: rest | 'z' :: rest => .ok (0, rest)
  | sign :: rest =>
    if sign = '+' ∨ sign = '-' ∨ sign = '\u2212' then
      if (String.ofList rest).utf8ByteSize < 2 then .error .premature
      else do
        let (hours, rest) ← fixedDigits 2 0 rest
        let (minutes, rest) ← offsetMinutes (← colon rest)
        let seconds : Int := hours * 3600 + minutes * 60
        return (if sign = '+' then seconds else -seconds, rest)
    else .error .invalid

/-- The colon between the hours and the minutes of an offset. -/
def colon : List Char → Except Fault (List Char)
  | ':' :: rest => .ok rest
  | [] => .error .premature
  | _ => .error .invalid

/-- Any colons and white space between the hours and the minutes of an offset. -/
def colonOrBlank (cs : List Char) : Except Fault (List Char) :=
  .ok (cs.dropWhile fun c ↦ c = ':' || Text.isBlank c)

/-- The first year that can be told apart. -/
def firstYear : Int := -262143

/-- The last year that can be told apart. -/
def lastYear : Int := 262142

/-- The years that can be told apart. -/
def yearInRange (year : Int) : Bool := firstYear ≤ year && year ≤ lastYear

/-- The instants of those years. -/
def checkInstant (t : Instant) : Except Fault Instant :=
  if Date.toDay ⟨firstYear, 1, 1⟩ ≤ t.day ∧ t.day ≤ Date.toDay ⟨lastYear, 12, 31⟩ then .ok t else .error .impossible

/-- A date of the calendar. -/
def checkDate (d : Date) : Except Fault Int :=
  if yearInRange d.year && d.isValid then .ok d.toDay else .error .outOfRange

/-- The instant of a local time: `second` may be 60. -/
def checkTime (day : Int) (hour minute second nano : Nat) (offset : Int) : Except Fault Instant :=
  let leap := second = 60
  let whole := if leap then 59 else second
  let nano := if leap then nano + nanosPerSecond else nano
  if hour < 24 ∧ minute < 60 ∧ whole < 60 then
    if hnano : nano < 2000000000 then
      let seconds : Int := (hour * 3600 + minute * 60 + whole : Nat) - offset
      .ok ⟨day + seconds / 86400, (seconds % 86400).toNat, nano, by omega, hnano⟩
    else .error .outOfRange
  else .error .outOfRange

/-- Only offsets of less than a day exist. -/
def checkOffset (offset : Int) : Except Fault Unit :=
  if offset.natAbs < 86400 then .ok () else .error .outOfRange

/-- The strict reader. -/
def strict (cs : List Char) : Except Fault Instant := do
  if (String.ofList cs).utf8ByteSize < 19 then .error .premature
  let (year, cs) ← fixedDigits 4 0 cs
  let (_, cs) ← oneOf ['-'] cs
  let (month, cs) ← fixedDigits 2 0 cs
  let (_, cs) ← oneOf ['-'] cs
  let (dayOfMonth, cs) ← fixedDigits 2 0 cs
  let day ← checkDate ⟨year, month, dayOfMonth⟩
  let (_, cs) ← oneOf ['t', 'T', ' '] cs
  let (hour, cs) ← fixedDigits 2 0 cs
  let (_, cs) ← oneOf [':'] cs
  let (minute, cs) ← fixedDigits 2 0 cs
  let (_, cs) ← oneOf [':'] cs
  let (second, cs) ← fixedDigits 2 0 cs
  let (nano, cs) ← match cs with
    | '.' :: cs => fraction cs
    | cs => pure (0, cs)
  -- The time of day is judged before the offset is read.
  let _ ← checkTime day hour minute second nano 0
  let (offset, cs) ← offset colon cs
  unless cs.isEmpty do .error .trailing
  checkOffset offset
  checkTime day hour minute second nano offset

/-- One to `width` digits. -/
def number (width : Nat) (cs : List Char) : Except Fault (Nat × List Char) :=
  match cs with
  | [] => .error .premature
  | c :: _ =>
    if c.isDigit then
      let digits := (cs.take width).takeWhile Char.isDigit
      .ok (digits.foldl (fun n c ↦ n * 10 + Text.digitValue c) 0, cs.drop digits.length)
    else .error .invalid

/-- A year: up to four digits, or a sign and any number of them that 32 bits hold. -/
def year (cs : List Char) : Except Fault (Int × List Char) :=
  let signed (cs : List Char) (sign : Int) : Except Fault (Int × List Char) := do
    let (n, rest) ← number cs.length cs
    if -2147483648 ≤ sign * n ∧ sign * n ≤ 2147483647 then .ok (sign * n, rest) else .error .outOfRange
  match cs with
  | '-' :: rest => signed rest (-1)
  | '+' :: rest => signed rest 1
  | cs => do
    let (n, rest) ← number 4 cs
    return (n, rest)

/-- A given character. -/
def literal (c : Char) : List Char → Except Fault (List Char)
  | [] => .error .premature
  | d :: rest => if c = d then .ok rest else .error .invalid

/-- A number of up to two digits within bounds, after white space. -/
def part (low high : Nat) (cs : List Char) : Except Fault (Nat × List Char) := do
  let (n, rest) ← number 2 (Text.trimStart cs)
  if low ≤ n ∧ n ≤ high then .ok (n, rest) else .error .outOfRange

/-- `UTC`, in any case. -/
def utc? : List Char → Option (List Char)
  | a :: b :: c :: rest =>
    if a.toUpper = 'U' ∧ b.toUpper = 'T' ∧ c.toUpper = 'C' then some rest else none
  | _ => none

/-- The relaxed reader. -/
def relaxed (cs : List Char) : Except Fault Instant := do
  let (year, cs) ← year (Text.trimStart cs)
  let cs ← literal '-' (Text.trimStart cs)
  let (month, cs) ← part 1 12 cs
  let cs ← literal '-' (Text.trimStart cs)
  let (dayOfMonth, cs) ← part 1 31 cs
  let cs ← match cs with
    | [] => .error .premature
    | c :: cs => if c = 't' ∨ c = 'T' ∨ c = ' ' then .ok cs else .error .invalid
  let (hour, cs) ← part 0 23 cs
  let cs ← literal ':' (Text.trimStart cs)
  let (minute, cs) ← part 0 59 cs
  let cs ← literal ':' (Text.trimStart cs)
  let (second, cs) ← part 0 60 cs
  let (nano, cs) ← match cs with
    | '.' :: cs => fraction cs
    | cs => pure (0, cs)
  let cs := Text.trimStart cs
  let (offset, cs) ← match utc? cs with
    | some rest => pure (0, rest)
    | none => offset colonOrBlank cs
  unless (Text.trimStart cs).isEmpty do .error .trailing
  let day ← checkDate ⟨year, month, dayOfMonth⟩
  checkOffset offset
  checkInstant (← checkTime day hour minute second nano offset)

end Reader

/-- The instant of a text in RFC 3339. -/
def ofRfc3339 (text : String) : Except Fault Instant := Reader.strict text.toList

/-- The instant of a text in the relaxed form. -/
def ofRelaxed (text : String) : Except Fault Instant := Reader.relaxed text.toList

end Instant

end GaleraOperator
