import GaleraOperator.Cluster.State

/-!
# What the owner of a cluster asks for

The tiers of a cluster and their sizes, the volumes of the database, and where and when backups are made. The owner
writes these documents by hand, so every record is strict, and most members have defaults.
-/

namespace GaleraOperator

open Json

/-- The volume of each database pod. -/
structure VolumeSpec where
  storageClass : Option String
  /-- The storage that is asked for, as a quantity. -/
  storage : String
  deriving DecidableEq, Repr

/-- The decoder of volumes. -/
def VolumeSpec.decoder : Decoder VolumeSpec := Fields.strict "VolumeSpec" <|
  mk <$> Fields.optional "storageClass" .text <*> Fields.required "storage" .text

/-- A volume as a document. -/
def VolumeSpec.toJson (v : VolumeSpec) : Json :=
  .ofFields [("storageClass", v.storageClass.map .string), ("storage", some (.string v.storage))]

/-- The tier of the database. -/
structure DatabaseSpec where
  size : Int32
  image : String
  /-- Whether the operator brings a crashed cluster back by itself. -/
  autoRecovery : Bool
  volume : VolumeSpec
  deriving DecidableEq, Repr

/-- The decoder of the tier of the database. -/
def DatabaseSpec.decoder : Decoder DatabaseSpec := Fields.strict "PxcSpec" <|
  mk <$> Fields.defaulted "size" 3 .int32
    <*> Fields.required "image" .text
    <*> Fields.defaulted "autoRecovery" true .truth
    <*> Fields.required "volumeSpec" VolumeSpec.decoder

/-- The tier of the database as a document. -/
def DatabaseSpec.toJson (d : DatabaseSpec) : Json :=
  .ofFields [
    ("size", some (.int d.size.toInt)),
    ("image", some (.string d.image)),
    ("autoRecovery", some (.bool d.autoRecovery)),
    ("volumeSpec", some d.volume.toJson)]

/-- A tier of proxies. -/
structure ProxySpec where
  enabled : Bool
  size : Int32
  image : Option String
  deriving DecidableEq, Repr

/-- The decoder of tiers of proxies. -/
def ProxySpec.decoder : Decoder ProxySpec := Fields.strict "ProxySpec" <|
  mk <$> Fields.defaulted "enabled" false .truth
    <*> Fields.defaulted "size" 2 .int32
    <*> Fields.optional "image" .text

/-- A tier of proxies as a document. -/
def ProxySpec.toJson (p : ProxySpec) : Json :=
  .ofFields [
    ("enabled", some (.bool p.enabled)),
    ("size", some (.int p.size.toInt)),
    ("image", p.image.map .string)]

/-- A destination of backups. -/
inductive Storage where
  | s3 (bucket : String) (region endpointUrl : Option String) (credentialsSecret : String)
  | azure (container credentialsSecret : String)
  | filesystem (claimName : String)
  deriving DecidableEq, Repr

namespace Storage

/-- The types of destinations. -/
inductive Kind where
  | s3
  | azure
  | filesystem
  deriving DecidableEq, Repr

/-- The type of a destination. -/
def kind : Storage → Kind
  | .s3 .. => .s3
  | .azure .. => .azure
  | .filesystem .. => .filesystem

namespace Kind

/-- How a type is written. -/
def text : Kind → String
  | .s3 => "s3"
  | .azure => "azure"
  | .filesystem => "filesystem"

/-- How the record of a type is called. -/
def recordName : Kind → String
  | .s3 => "S3"
  | .azure => "Azure"
  | .filesystem => "Filesystem"

/-- All types. -/
def all : List Kind := [.s3, .azure, .filesystem]

/-- The members of a destination of a type. -/
def fields : Kind → Fields Storage
  | .s3 =>
    Storage.s3 <$> Fields.required "bucket" .text
      <*> Fields.optional "region" .text
      <*> Fields.optional "endpointUrl" .text
      <*> Fields.required "credentialsSecret" .text
  | .azure => Storage.azure <$> Fields.required "container" .text <*> Fields.required "credentialsSecret" .text
  | .filesystem => Storage.filesystem <$> Fields.required "claimName" .text

/-- The decoder of destinations of a type. -/
def decoder (k : Kind) : Decoder Storage := k.fields.strict ("variant BackupStorageSpec::" ++ k.recordName)

end Kind

/-- The decoder of destinations: the type is a member among the others, or the first item. -/
def decoder : Decoder Storage := .tagged "BackupStorageSpec" "type" (Kind.all.map fun k ↦ (k.text, k.decoder))

/-- The members of a destination besides its type. -/
def fields : Storage → List (String × Option Json)
  | .s3 bucket region endpointUrl credentialsSecret => [
    ("bucket", some (.string bucket)),
    ("region", region.map .string),
    ("endpointUrl", endpointUrl.map .string),
    ("credentialsSecret", some (.string credentialsSecret))]
  | .azure container credentialsSecret =>
    [("container", some (.string container)), ("credentialsSecret", some (.string credentialsSecret))]
  | .filesystem claimName => [("claimName", some (.string claimName))]

/-- A destination as a document. -/
def toJson (s : Storage) : Json := .ofFields (("type", some (.string s.kind.text)) :: s.fields)

end Storage

/-- When backups are made, where to, and how many of them are kept. -/
structure Schedule where
  name : String
  /-- The cron expression. -/
  schedule : String
  /-- The number of succeeded backups to keep; all of them if it is zero. -/
  keep : UInt32
  storageName : String
  deriving DecidableEq, Repr

/-- The decoder of schedules. -/
def Schedule.decoder : Decoder Schedule := Fields.strict "BackupScheduleSpec" <|
  mk <$> Fields.required "name" .text
    <*> Fields.required "schedule" .text
    <*> Fields.defaulted "keep" 0 .uint32
    <*> Fields.required "storageName" .text

/-- A schedule as a document. -/
def Schedule.toJson (s : Schedule) : Json :=
  .ofFields [
    ("name", some (.string s.name)),
    ("schedule", some (.string s.schedule)),
    ("keep", some (.nat s.keep.toNat)),
    ("storageName", some (.string s.storageName))]

/-- How backups are made. -/
structure BackupSpec where
  image : String
  storages : Dict Storage
  schedules : List Schedule
  deriving DecidableEq, Repr

/-- The decoder of how backups are made. -/
def BackupSpec.decoder : Decoder BackupSpec := Fields.strict "BackupSpec" <|
  mk <$> Fields.required "image" .text
    <*> Fields.defaulted "storages" .empty (.dict Storage.decoder)
    <*> Fields.defaulted "schedule" [] (.list Schedule.decoder)

/-- How backups are made, as a document. -/
def BackupSpec.toJson (b : BackupSpec) : Json :=
  .ofFields [
    ("image", some (.string b.image)),
    ("storages", some (.object (b.storages.toList.map fun (name, storage) ↦ (name, storage.toJson)))),
    ("schedule", some (.array (b.schedules.map Schedule.toJson)))]

/-- What the owner of a cluster asks for. -/
structure ClusterSpec where
  database : DatabaseSpec
  haproxy : Option ProxySpec
  proxysql : Option ProxySpec
  paused : Bool
  backup : Option BackupSpec
  deriving DecidableEq, Repr

namespace ClusterSpec

/-- The decoder of what owners ask for. -/
def decoder : Decoder ClusterSpec := Fields.strict "XtraDBClusterSpec" <|
  mk <$> Fields.required "pxc" DatabaseSpec.decoder
    <*> Fields.optional "haproxy" ProxySpec.decoder
    <*> Fields.optional "proxysql" ProxySpec.decoder
    <*> Fields.defaulted "pause" false .truth
    <*> Fields.optional "backup" BackupSpec.decoder

/-- What the owner asks for, as a document. -/
def toJson (s : ClusterSpec) : Json :=
  .ofFields [
    ("pxc", some s.database.toJson),
    ("haproxy", s.haproxy.map ProxySpec.toJson),
    ("proxysql", s.proxysql.map ProxySpec.toJson),
    ("pause", some (.bool s.paused)),
    ("backup", s.backup.map BackupSpec.toJson)]

end ClusterSpec

end GaleraOperator
