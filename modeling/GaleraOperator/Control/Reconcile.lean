import GaleraOperator.Control.Memory
import GaleraOperator.Status.Aggregate
import GaleraOperator.Status.Write
import GaleraOperator.Volume.Reconcile

/-!
# The pass over a cluster

A pass looks at the cluster, recovers it from a crash, sees to its backups and to its volumes, and writes down what it
saw. When a step fails the others are left for the next pass, and the status tells of the error instead. Only a
recovery that does not come about leaves the rest of the pass to go on.
-/

namespace GaleraOperator

open Pass

/-- When a cluster is looked at again. -/
inductive Requeue where
  | after (d : Duration)
  | onChange
  deriving DecidableEq, Repr

/-- What the status tells of a recovery that did not come about. -/
def recoveryMessage (e : Error) : String := "Crash recovery: " ++ e.message

/-- Recover a cluster if it has crashed. What goes wrong with that is told, and only a log that cannot be read ends
the pass. -/
def recoverStep {σ : Type} (settings : Settings) (c : Cluster) (pods : List PodObservation) (update : StatusUpdate) :
    Pass σ StatusUpdate := do
  match ← attempt (Recovery.recover settings c pods) with
  | .ok _ => return update
  | .error (.crashLog pod reason) => fail (.crashLog pod reason)
  | .error e => return update.addMessage (recoveryMessage e)

/-- See to the backups of a cluster. The registry is kept also if that fails. -/
def scheduleStep (settings : Settings) (key : String) (c : Cluster) : Pass Memory ScheduleOutcome :=
  focus (·.registry key) (fun registry memory ↦ memory.withRegistry key registry) (Schedules.reconcile settings c)

/-- All steps of a pass but the last; the answer is what to write down. -/
def runSteps (settings : Settings) (key : String) (c : Cluster) : Pass Memory StatusUpdate := do
  let (seen, pods) ← aggregate c
  let update ← recoverStep settings c pods seen
  let _ ← scheduleStep settings key c
  let _ ← Volume.reconcile settings c
  return update

/-- Count a pass that ended well, and show the pods that it saw. -/
def reportPass {σ : Type} (ns name : String) (update : StatusUpdate) : Pass σ Unit := do
  measure ns name .passed
  if let .observed o := update then
    let tiers := [(Tier.database, some o.database), (.haproxy, o.haproxy), (.proxysql, o.proxysql)]
    tiers.forM fun (tier, status?) ↦
      match status? with
      | some status => measure ns name (.pods tier.label status.size.toInt status.ready.toInt)
      | none => pure ()
  ask (.touch (← now).unixSeconds.toNat)

/-- Bring a cluster closer to what its owner asks for. -/
def reconcile (settings : Settings) (c : Cluster) : Pass Memory Requeue := do
  let some ns := c.metadata.ns? | fail .missingNamespace
  let key := clusterKey ns c.name
  if c.metadata.deletionTimestamp.isSome then
    modify (·.forget key)
    return .onChange
  match ← attempt (runSteps settings key c) with
  | .error e =>
    let _ ← attempt ((StatusUpdate.failed e.message).write settings c)
    fail e
  | .ok update =>
    update.write settings c
    modify (·.clearFailures key)
    reportPass ns c.name update
    return .after settings.interval

/-- When a cluster is looked at again after a pass that failed; `sample` is a random number from 0 up to 1. -/
def retryDelay {ν : Type} [DelayArithmetic ν] (sample : ν) (e : Error) (failuresBefore : UInt32) : Duration :=
  Backoff.betweenPasses.delayAfter sample e failuresBefore

/-- Count a pass over a cluster that has failed; the answer is how many had failed before it in a row. -/
def afterFailure (c : Cluster) : Pass Memory UInt32 := do
  let ns := c.metadata.ns?.getD ""
  let key := clusterKey ns c.name
  let before := (← get).failureCount key
  modify (·.recordFailure key)
  measure ns c.name .failed
  return before

end GaleraOperator
