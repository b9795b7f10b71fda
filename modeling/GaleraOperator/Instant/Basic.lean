import GaleraOperator.Instant.Calendar

/-!
# Instants

Points in time in UTC, to the nanosecond. A leap second is the 60th second of its minute: it is counted as a part of
the second before it, with a nanosecond of one billion or more.
-/

namespace GaleraOperator

/-- A point in time. -/
structure Instant where
  /-- Days since the first of January of the year 0. -/
  day : Int
  /-- Seconds since midnight. -/
  second : Nat
  /-- Nanoseconds since the second began. -/
  nano : Nat
  second_lt : second < 86400
  nano_lt : nano < 2000000000
  deriving DecidableEq, Repr

namespace Instant

/-- Nanoseconds of a second. -/
def nanosPerSecond : Nat := 1000000000

/-- The number of an instant in the order of time. -/
def rank (t : Instant) : Int := (t.day * 86400 + t.second) * 2000000000 + t.nano

instance : LT Instant := ⟨fun s t ↦ s.rank < t.rank⟩
instance : LE Instant := ⟨fun s t ↦ s.rank ≤ t.rank⟩
instance (s t : Instant) : Decidable (s < t) := inferInstanceAs (Decidable (s.rank < t.rank))
instance (s t : Instant) : Decidable (s ≤ t) := inferInstanceAs (Decidable (s.rank ≤ t.rank))

/-- Different instants differ in the order of time. -/
theorem rank_inj {s t : Instant} : s.rank = t.rank ↔ s = t := by
  constructor
  · intro h
    obtain ⟨d, s, n, hs, hn⟩ := s
    obtain ⟨d', s', n', hs', hn'⟩ := t
    simp only [rank] at h
    have : d = d' ∧ s = s' ∧ n = n' := by omega
    obtain ⟨rfl, rfl, rfl⟩ := this
    rfl
  · rintro rfl; rfl

/-- Whether the instant lies in a leap second. -/
def isLeapSecond (t : Instant) : Bool := nanosPerSecond ≤ t.nano

/-- The day on which Unix time starts. -/
def epochDay : Int := 719528

/-- Whole seconds since 1970. -/
def unixSeconds (t : Instant) : Int := (t.day - epochDay) * 86400 + t.second

/-- The leap second, in seconds, that the time of day passes on the way from `s` to `t`. -/
def leapBetween (t s : Instant) : Int :=
  if s.second < t.second then if s.isLeapSecond then 1 else 0
  else if t.second < s.second then if t.isLeapSecond then -1 else 0
  else 0

/-- Nanoseconds from `s` to `t`. -/
def since (t s : Instant) : Int :=
  ((t.day - s.day) * 86400 + ((t.second : Int) - s.second) + leapBetween t s) * nanosPerSecond +
    ((t.nano : Int) - s.nano)

/-- The instant without its part of a second. -/
def wholeSecond (t : Instant) : Instant := { t with nano := 0, nano_lt := by decide }

end Instant

end GaleraOperator
