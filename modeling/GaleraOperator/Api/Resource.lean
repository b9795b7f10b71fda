import GaleraOperator.Backup.Record
import GaleraOperator.Cluster.Basic
import GaleraOperator.Kube.CronJob
import GaleraOperator.Kube.Event
import GaleraOperator.Kube.Pod
import GaleraOperator.Kube.StatefulSet

/-!
# Kinds of objects

The objects that the operator deals with, how they are written, and where their collections are found in the cluster's
interface.
-/

namespace GaleraOperator

/-- The kinds of objects. -/
inductive ResourceKind where
  | cluster
  | pod
  | statefulSet
  | claim
  | event
  | cronJob
  | backup
  deriving DecidableEq, Repr

/-- An object of the cluster. -/
inductive Resource where
  | cluster (c : Cluster)
  | pod (p : Kube.Pod)
  | statefulSet (s : Kube.StatefulSet)
  | claim (c : Kube.Claim)
  | event (e : Kube.Event)
  | cronJob (j : Kube.CronJob)
  | backup (b : Backup)
  deriving DecidableEq, Repr

namespace ResourceKind

/-- Where the kinds of one group and version are found. -/
def root : ResourceKind → String
  | .pod | .claim => "/api/v1"
  | .statefulSet => "/apis/apps/v1"
  | .cronJob => "/apis/batch/v1"
  | .event => "/apis/events.k8s.io/v1"
  | .cluster | .backup => "/apis/" ++ apiVersion

/-- The name of a collection. -/
def plural : ResourceKind → String
  | .cluster => "xtradbclusters"
  | .pod => "pods"
  | .statefulSet => "statefulsets"
  | .claim => "persistentvolumeclaims"
  | .event => "events"
  | .cronJob => "cronjobs"
  | .backup => "xtradbclusterbackups"

/-- Where the collection of a namespace, or of all of them, is found. -/
def path (k : ResourceKind) (ns : Option String) : String :=
  match ns with
  | some ns => k.root ++ "/namespaces/" ++ ns ++ "/" ++ k.plural
  | none => k.root ++ "/" ++ k.plural

end ResourceKind

namespace Resource

/-- The decoder of objects of a kind. -/
def decoder : ResourceKind → Json.Decoder Resource
  | .cluster => .map .cluster Cluster.decoder
  | .pod => .map .pod Kube.Pod.decoder
  | .statefulSet => .map .statefulSet Kube.StatefulSet.decoder
  | .claim => .map .claim Kube.Claim.decoder
  | .event => .map .event Kube.Event.decoder
  | .cronJob => .map .cronJob Kube.CronJob.decoder
  | .backup => .map .backup Backup.decoder

/-- The document of an object. -/
def toJson : Resource → Json
  | .cluster c => c.toJson
  | .pod p => p.toJson
  | .statefulSet s => s.toJson
  | .claim c => c.toJson
  | .event e => e.toJson
  | .cronJob j => j.toJson
  | .backup b => b.toJson

end Resource

end GaleraOperator
