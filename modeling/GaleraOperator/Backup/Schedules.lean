import GaleraOperator.Backup.Job
import GaleraOperator.Backup.Retention
import GaleraOperator.Pass.Basic
import GaleraOperator.Settings

/-!
# Keeping the jobs of a cluster in line with its schedules

Every declared schedule whose storage exists gets its job, jobs that nobody declares any more are deleted, and then
the expired records of every schedule are. A registry remembers from which plan each job was made; it is believed for
as long as the job is still listed, and spares looking at it.
-/

namespace GaleraOperator

open Kube Pass

/-- The plans that the jobs of a cluster were made from, by the names of the jobs. -/
abbrev Registry := Dict BackupPlan

/-- How many jobs and records a pass over the schedules touched. -/
structure ScheduleOutcome where
  created : Nat
  updated : Nat
  removed : Nat
  pruned : Nat
  deriving DecidableEq, Repr

/-- What was done about the job of a schedule. -/
inductive JobChange where
  | kept
  | created
  | updated
  deriving DecidableEq, Repr

namespace Schedules

variable {σ : Type}

/-- Change what the registry remembers. -/
def remember (change : Registry → Registry) : Pass Registry Unit := modify change

/-- Delete a record, and tell whether that succeeded. -/
def deleteRecord (ns name : String) : Pass σ Bool := do
  match ← attempt (call (.deleteBackup ns name)) with
  | .ok () => return true
  | .error _ => return false

/-- The labels of the records that a job left. -/
def recordLabels (cluster job : String) : Labels := .ofList [(clusterLabel, cluster), (ancestorLabel, job)]

/-- Delete the expired records of a job; the answer is how many were deleted. -/
def prune (ns cluster job : String) (keep : UInt32) : Pass σ Nat := do
  let backups ← call (.listBackups ns (recordLabels cluster job).selector)
  let deleted ← (Backup.expired backups keep.toNat).mapM (deleteRecord ns)
  return deleted.count true

/-- Delete the expired records of a declared schedule. That they cannot be listed is no reason to stop. -/
def pruneDeclared (ns cluster : String) (declared : String × Schedule) : Pass σ Nat := do
  if declared.2.keep = 0 then return 0
  match ← attempt (prune ns cluster declared.1 declared.2.keep) with
  | .ok count => return count
  | .error _ => return 0

/-- Bring a job in line with what it should be. -/
def applyJob (ns : String) (desired : CronJob) : Pass σ JobChange := do
  match ← call (.getCronJob ns desired.name) with
  | none =>
    let _ ← call (.createCronJob ns desired)
    return .created
  | some existing =>
    if Backup.upToDate existing desired then return .kept
    let version := existing.metadata.resourceVersion
    let _ ← call (.replaceCronJob ns { desired with metadata.resourceVersion := version })
    return .updated

/-- What the job of a schedule is to be made from, if its storage exists. -/
def plan? (backup : BackupSpec) (schedule : Schedule) : Option BackupPlan :=
  (backup.storages.get? schedule.storageName).map fun storage ↦ ⟨schedule, storage, backup.image⟩

/-- Bring the job of a schedule in line, unless the registry says that it is. -/
def applySchedule (settings : Settings) (ns : String) (c : Cluster) (backup : BackupSpec) (schedule : Schedule) :
    Pass Registry JobChange := do
  let some plan := plan? backup schedule | return .kept
  let job := jobName c.name schedule.name
  if (← get).get? job = some plan then return .kept
  let change ← applyJob ns (Backup.cronJob c plan settings.serviceAccount)
  remember (·.insert job plan)
  return change

/-- The declared schedules by the names of their jobs; of schedules with one job the last counts. -/
def declared (c : Cluster) : Dict Schedule :=
  match c.spec.backup with
  | none => .empty
  | some backup => .ofList (backup.schedules.map fun s ↦ (jobName c.name s.name, s))

/-- Bring the jobs of all declared schedules in line. -/
def applyAll (settings : Settings) (ns : String) (c : Cluster) : Pass Registry (List JobChange) := do
  match c.spec.backup with
  | none => return []
  | some backup => backup.schedules.mapM (applySchedule settings ns c backup)

/-- The jobs of a cluster, by name. -/
def listJobs (ns : String) (c : Cluster) : Pass σ (List String) := do
  let labels : Labels := .ofList [(clusterLabel, c.name)]
  let jobs ← call (.listCronJobs ns labels.selector)
  return (Dict.ofList (jobs.map fun job ↦ (job.name, ()))).keys

/-- Delete jobs. -/
def deleteJobs (ns : String) (jobs : List String) : Pass σ Unit :=
  jobs.forM fun job ↦ call (.deleteCronJob ns job)

/-- The sum of several numbers. -/
def total (ns : List Nat) : Nat := ns.foldr (· + ·) 0

/-- Bring the jobs and the records of a cluster in line with its schedules. -/
def reconcile (settings : Settings) (c : Cluster) : Pass Registry ScheduleOutcome := do
  let some ns := c.metadata.ns? | fail .missingNamespace
  let listed ← listJobs ns c
  remember (·.retain listed.contains)
  let changes ← applyAll settings ns c
  let declared := declared c
  let undeclared := listed.filter fun job ↦ !declared.contains job
  deleteJobs ns undeclared
  remember (·.retain declared.contains)
  let pruned ← declared.toList.mapM (pruneDeclared ns c.name)
  if 0 < total pruned then measure ns c.name (.pruned (total pruned))
  return {
    created := changes.count .created
    updated := changes.count .updated
    removed := undeclared.length
    pruned := total pruned }

end Schedules

end GaleraOperator
