import GaleraOperator.Selector

/-!
# Names and labels

What the operator calls the objects of a cluster, and the labels by which it and others find them again.
-/

namespace GaleraOperator

/-- The version of the operator's own resources. -/
def apiVersion : String := "xtradb.example.com/v1"

/-- The kind of a cluster resource. -/
def clusterKind : String := "XtraDBCluster"

/-- The kind of a backup record. -/
def backupKind : String := "XtraDBClusterBackup"

/-- The name under which the operator manages objects. -/
def managerName : String := "xtradb-operator"

/-- The label of the cluster that an object belongs to. -/
def clusterLabel : String := "xtradb.example.com/cluster"

/-- The label of the CronJob that an object stems from. -/
def ancestorLabel : String := "xtradb.example.com/ancestor-schedule"

/-- The label of how a backup came about. -/
def backupTypeLabel : String := "xtradb.example.com/backup-type"

/-- The label of the part of a cluster that a pod belongs to. -/
def componentLabel : String := "app.kubernetes.io/component"

/-- The label of the cluster of a pod. -/
def instanceLabel : String := "app.kubernetes.io/instance"

/-- The label of the manager of an object. -/
def managedByLabel : String := "app.kubernetes.io/managed-by"

/-- The label of the revision that a pod was made from. -/
def revisionLabel : String := "controller-revision-hash"

/-- The name of the volumes that hold the database. -/
def dataVolume : String := "datadir"

/-- The annotation that says when a resize of the volumes was started. -/
def resizeAnnotation : String := "xtradb.example.com/pvc-resize-in-progress"

/-- The labels of the pods of one component. -/
def componentLabels (cluster component : String) : Labels :=
  .ofList [
    ("app.kubernetes.io/name", "xtradb-cluster"),
    (instanceLabel, cluster),
    (componentLabel, component),
    (managedByLabel, managerName),
    ("app.kubernetes.io/part-of", "xtradb-cluster")]

/-- The labels of what the operator makes for a backup schedule. -/
def scheduleLabels (cluster job : String) : Labels :=
  .ofList [(clusterLabel, cluster), (ancestorLabel, job), (managedByLabel, managerName)]

/-- The name of the StatefulSet of a component. -/
def statefulSetName (cluster component : String) : String := cluster ++ "-" ++ component

/-- The name of a pod of a StatefulSet. -/
def podName (statefulSet : String) (ordinal : Int) : String := statefulSet ++ "-" ++ toString ordinal

/-- The name of the data claim of a pod. -/
def dataClaimName (pod : String) : String := dataVolume ++ "-" ++ pod

/-- Drop characters from the end up to the last letter or digit. -/
def trimSeparators (cs : List Char) : List Char :=
  (cs.reverse.dropWhile fun c ↦ !c.isAlphanum).reverse

/-- The first `max` characters of a name, without separators at the end. -/
def truncateName (name : String) (max : Nat) : String :=
  String.ofList (trimSeparators (name.toList.take max))

/-- The longest name of a CronJob that leaves room for the names derived from it. -/
def maxJobNameLength : Nat := 52

/-- The name of the CronJob of a schedule. -/
def jobName (cluster schedule : String) : String :=
  truncateName (cluster ++ "-backup-" ++ schedule) maxJobNameLength

end GaleraOperator
