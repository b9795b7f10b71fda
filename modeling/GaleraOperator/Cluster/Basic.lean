import GaleraOperator.Cluster.Spec
import GaleraOperator.Cluster.Status
import GaleraOperator.Kube.Meta
import GaleraOperator.Naming

/-!
# Clusters

The resource that the operator serves: metadata, what the owner asks for and what is known.
-/

namespace GaleraOperator

open Json

/-- A cluster. -/
structure Cluster where
  metadata : Kube.ObjectMeta
  spec : ClusterSpec
  status : Option ClusterStatus
  deriving DecidableEq, Repr

namespace Cluster

/-- The decoder of clusters. -/
def decoder : Decoder Cluster := Fields.strict clusterKind <|
  mk <$> Fields.required "metadata" Kube.ObjectMeta.decoder
    <*> Fields.required "spec" ClusterSpec.decoder
    <*> Fields.nullable "status" ClusterStatus.decoder

/-- A cluster as a document. -/
def toJson (c : Cluster) : Json :=
  .ofFields (Kube.typeFields apiVersion clusterKind ++ [
    ("metadata", some c.metadata.toJson),
    ("spec", some c.spec.toJson),
    ("status", c.status.map ClusterStatus.toJson)])

/-- The name of the cluster. -/
def name (c : Cluster) : String := c.metadata.displayName

/-- The storage that the owner asks for. -/
def requestedStorage (c : Cluster) : String := c.spec.database.volume.storage

/-- The cluster with another request for storage. -/
def withStorage (c : Cluster) (quantity : String) : Cluster :=
  { c with spec.database.volume.storage := quantity }

/-- The text of the annotation that says when a resize was started, if there is one. -/
def resizeMark? (c : Cluster) : Option String := do (← c.metadata.annotations).get? resizeAnnotation

/-- The cluster with a note of when a resize was started. -/
def withResizeMark (c : Cluster) (text : String) : Cluster :=
  { c with metadata.annotations := some ((c.metadata.annotations.getD .empty).insert resizeAnnotation text) }

/-- The cluster without a note of a resize. -/
def withoutResizeMark (c : Cluster) : Cluster :=
  { c with metadata.annotations := some ((c.metadata.annotations.getD .empty).erase resizeAnnotation) }

/-- The reference by which an object names the cluster as its owner. -/
def ownerReference (c : Cluster) : Kube.OwnerReference where
  apiVersion := apiVersion
  kind := clusterKind
  name := c.name
  uid := c.metadata.uid.getD ""
  controller := some true
  blockOwnerDeletion := some true

end Cluster

end GaleraOperator
