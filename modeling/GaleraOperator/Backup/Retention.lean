import GaleraOperator.Backup.Record

/-!
# Retention

Of the succeeded backups of a schedule the newest are kept. A record without a time of creation counts as older than
every other, and of two records of the same age the one with the lesser name. The rest expires, oldest first.
-/

namespace GaleraOperator.Backup

/-- What the age of a record is told by. -/
structure Age where
  created : Option Instant
  name : String
  deriving DecidableEq, Repr

/-- The age of a record. -/
def age (b : Backup) : Age := ⟨b.metadata.creationTimestamp, b.name⟩

/-- Whether a time of creation comes before another one; an unknown one comes first. -/
def createdBefore : Option Instant → Option Instant → Bool
  | none, none => false
  | none, some _ => true
  | some _, none => false
  | some s, some t => s < t

/-- Whether one record is older than another. -/
def Age.olderThan (a b : Age) : Bool :=
  createdBefore a.created b.created || (a.created = b.created && a.name < b.name)

/-- The oldest of records and the others. -/
def extractOldest (first : Age) : List Age → Age × List Age
  | [] => (first, [])
  | next :: rest =>
    if next.olderThan first then
      let (oldest, others) := extractOldest next rest
      (oldest, first :: others)
    else
      let (oldest, others) := extractOldest first rest
      (oldest, next :: others)

/-- So many of the oldest records, oldest first. -/
def takeOldest : Nat → List Age → List Age
  | 0, _ => []
  | _ + 1, [] => []
  | count + 1, first :: rest =>
    let (oldest, others) := extractOldest first rest
    oldest :: takeOldest count others

/-- The ages of the succeeded backups. -/
def succeededAges (backups : List Backup) : List Age :=
  (backups.filter fun b ↦ b.state = .succeeded).map age

/-- The names of the records to delete so that at most `keep` succeeded ones remain. Records in other states are
neither counted nor deleted. Nothing is put in order where there are no more records, or no more succeeded ones, than
are kept. -/
def expired (backups : List Backup) (keep : Nat) : List String :=
  if backups.length ≤ keep then []
  else
    let ages := succeededAges backups
    if ages.length ≤ keep then [] else (takeOldest (ages.length - keep) ages).map (·.name)

end GaleraOperator.Backup
