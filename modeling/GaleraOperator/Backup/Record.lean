import GaleraOperator.Kube.Meta
import GaleraOperator.Naming

/-!
# Backup records

Every run of a backup leaves a record: of which cluster, where to, and how far it came.
-/

namespace GaleraOperator

open Json

/-- How far a backup came. -/
inductive BackupState where
  | new
  | starting
  | running
  | failed
  | succeeded
  deriving DecidableEq, Repr

namespace BackupState

/-- How a state is written. -/
def text : BackupState → String
  | .new => "New"
  | .starting => "Starting"
  | .running => "Running"
  | .failed => "Failed"
  | .succeeded => "Succeeded"

/-- All states. -/
def all : List BackupState := [.new, .starting, .running, .failed, .succeeded]

/-- The decoder of states. -/
def decoder : Decoder BackupState := .variant (all.map fun s ↦ (s.text, s))

/-- A state as a document. -/
def toJson (s : BackupState) : Json := .string s.text

end BackupState

/-- What a backup is of and where it goes. -/
structure BackupTarget where
  cluster : String
  storageName : String
  deriving DecidableEq, Repr

/-- The decoder of what backups are of. -/
def BackupTarget.decoder : Decoder BackupTarget := Fields.strict "XtraDBClusterBackupSpec" <|
  mk <$> Fields.required "pxcCluster" .text <*> Fields.required "storageName" .text

/-- What a backup is of, as a document. -/
def BackupTarget.toJson (t : BackupTarget) : Json :=
  .ofFields [("pxcCluster", some (.string t.cluster)), ("storageName", some (.string t.storageName))]

/-- What became of a backup. -/
structure BackupProgress where
  state : BackupState
  completed : Option String
  destination : Option String
  deriving DecidableEq, Repr

/-- The decoder of what became of backups. -/
def BackupProgress.decoder : Decoder BackupProgress := Fields.strict "XtraDBClusterBackupStatus" <|
  mk <$> Fields.defaulted "state" .new BackupState.decoder
    <*> Fields.optional "completed" .text
    <*> Fields.optional "destination" .text

/-- What became of a backup, as a document. -/
def BackupProgress.toJson (p : BackupProgress) : Json :=
  .ofFields [
    ("state", some p.state.toJson),
    ("completed", p.completed.map .string),
    ("destination", p.destination.map .string)]

/-- A record of a backup. -/
structure Backup where
  metadata : Kube.ObjectMeta
  spec : BackupTarget
  status : Option BackupProgress
  deriving DecidableEq, Repr

namespace Backup

/-- The decoder of records. -/
def decoder : Decoder Backup := Fields.strict backupKind <|
  mk <$> Fields.required "metadata" Kube.ObjectMeta.decoder
    <*> Fields.required "spec" BackupTarget.decoder
    <*> Fields.nullable "status" BackupProgress.decoder

/-- A record as a document. -/
def toJson (b : Backup) : Json :=
  .ofFields (Kube.typeFields apiVersion backupKind ++ [
    ("metadata", some b.metadata.toJson),
    ("spec", some b.spec.toJson),
    ("status", b.status.map BackupProgress.toJson)])

/-- The name of the record. -/
def name (b : Backup) : String := b.metadata.displayName

/-- How far the backup came. -/
def state (b : Backup) : BackupState := (b.status.map (·.state)).getD .new

end Backup

end GaleraOperator
