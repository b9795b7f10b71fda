import GaleraOperator.Cluster.Basic
import GaleraOperator.Kube.CronJob

/-!
# The jobs of backup schedules

Every declared schedule becomes one CronJob that belongs to the cluster. A run of the job hands a manifest to the
cluster's interface, and with it a backup record that carries the labels of the schedule. The manifest stands in a
here-document that the shell expands, so that the name of the record can hold the time of the run.
-/

namespace GaleraOperator

open Kube

/-- What the job of a schedule is made from, besides the cluster. -/
structure BackupPlan where
  schedule : Schedule
  storage : Storage
  image : String
  deriving DecidableEq, Repr

namespace Backup

/-- The labels of a CronJob, and of what its runs leave. -/
def jobLabels (cluster job : String) : Labels :=
  (scheduleLabels cluster job).insert backupTypeLabel "cron"

/-- The part of a record's name that does not depend on the time of the run. -/
def recordStem (cluster storage : String) : String :=
  "cron-" ++ truncateName cluster 16 ++ "-" ++ truncateName storage 16

/-- A name and a value in double quotes, as a line of the manifest. -/
def manifestEntry (indent : Nat) (key value : String) : String :=
  String.ofList (List.replicate indent ' ') ++ key ++ ": \"" ++ value ++ "\""

/-- The command that gives the time of the run. -/
def runTime : String := "$(date -u +%Y%m%d%H%M%S)"

/-- The lines of the script that leaves a record. -/
def scriptLines (ns cluster job storage : String) : List String := [
  "cat <<EOF | kubectl apply -f -",
  "apiVersion: " ++ apiVersion,
  "kind: " ++ backupKind,
  "metadata:",
  manifestEntry 2 "namespace" ns,
  manifestEntry 2 "name" (recordStem cluster storage ++ "-" ++ runTime),
  "  labels:",
  manifestEntry 4 clusterLabel cluster,
  manifestEntry 4 ancestorLabel job,
  manifestEntry 4 backupTypeLabel "cron",
  "spec:",
  manifestEntry 2 "pxcCluster" cluster,
  manifestEntry 2 "storageName" storage,
  "EOF"]

/-- The script that leaves a record. -/
def script (ns cluster job storage : String) : String :=
  String.join ((scriptLines ns cluster job storage).map (· ++ "\n"))

/-- The container of a job. -/
def jobContainer (ns cluster job : String) (plan : BackupPlan) : Container where
  name := "run-backup"
  image := some plan.image
  command := some ["sh", "-c"]
  args := some [script ns cluster job plan.schedule.storageName]
  env := some [⟨"STORAGE_TYPE", some plan.storage.kind.text, []⟩]
  carried := []

/-- The CronJob of a schedule. -/
def cronJob (cluster : Cluster) (plan : BackupPlan) (serviceAccount : Option String) : CronJob :=
  let ns := cluster.metadata.ns?.getD ""
  let job := jobName cluster.name plan.schedule.name
  let labels := jobLabels cluster.name job
  let pod : PodSpec := {
    containers := [jobContainer ns cluster.name job plan]
    restartPolicy := some "Never"
    serviceAccountName := serviceAccount
    carried := [] }
  let run : JobSpec := {
    template := ⟨some { ObjectMeta.empty with labels := some labels }, some pod⟩
    backoffLimit := some 2
    carried := [] }
  { metadata := { ObjectMeta.empty with
      name := some job
      ns? := some ns
      labels := some labels
      ownerReferences := some [cluster.ownerReference] }
    spec := some {
      schedule := plan.schedule.schedule
      jobTemplate := ⟨none, some run⟩
      concurrencyPolicy := some "Forbid"
      successfulJobsHistoryLimit := some 1
      carried := [] }
    carried := [] }

/-- Whether two containers run the same. -/
def sameRun (a b : Container) : Bool := a.image = b.image && a.args = b.args && a.env = b.env

/-- Whether a CronJob needs no update to do what another one does. Only what the operator sets itself is compared:
the cluster fills in the rest. -/
def upToDate (existing desired : CronJob) : Bool :=
  match existing.spec, desired.spec, existing.container?, desired.container? with
  | some current, some wanted, some a, some b =>
    existing.metadata.labels = desired.metadata.labels && current.schedule = wanted.schedule && sameRun a b
  | _, _, _, _ => false

end Backup

end GaleraOperator
