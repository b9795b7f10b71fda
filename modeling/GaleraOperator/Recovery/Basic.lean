import GaleraOperator.Pass.Basic
import GaleraOperator.Recovery.CrashLog
import GaleraOperator.Recovery.Leader
import GaleraOperator.Settings
import GaleraOperator.Status.Observation

/-!
# Recovering a crashed cluster

When every expected database pod runs, none is ready and all of them wait with a banner, the pod with the latest
transaction is told to start a new cluster. Anything else leaves the pods alone.
-/

namespace GaleraOperator

/-- Why a cluster is not taken for crashed. -/
inductive RecoveryObstacle where
  | autoRecoveryDisabled
  | paused
  | noPodsDeclared
  | podMissing
  | podNotRunning
  | podReady
  deriving DecidableEq, Repr

/-- Why nothing was done about a cluster. -/
inductive SkipReason where
  | obstacle (o : RecoveryObstacle)
  | podDisappeared
  | noBanner
  | noCrashedPods
  | leaderDisappeared
  deriving DecidableEq, Repr

/-- The wording of an obstacle. -/
def RecoveryObstacle.text : RecoveryObstacle → String
  | .autoRecoveryDisabled => "auto recovery disabled"
  | .paused => "cluster paused"
  | .noPodsDeclared => "no database nodes declared"
  | .podMissing => "not all database pods exist"
  | .podNotRunning => "not all database pods are running"
  | .podReady => "a database pod is ready"

/-- The wording of a reason. -/
def SkipReason.text : SkipReason → String
  | .obstacle o => o.text
  | .podDisappeared => "database pod disappeared"
  | .noBanner => "crash banner not shown by every pod"
  | .noCrashedPods => "no crashed pods"
  | .leaderDisappeared => "leader pod disappeared"

/-- What came of looking after a crashed cluster. -/
inductive RecoveryOutcome where
  | skipped (reason : SkipReason)
  | signalled (pod : String) (seqno : Int)
  deriving DecidableEq, Repr

namespace Recovery

open Pass

/-- The name of the container of the database. -/
def databaseContainer : String := "pxc"

/-- The command that tells a waiting pod to start a new cluster. -/
def startCommand : List String := ["/bin/sh", "-c", "kill -s USR1 1"]

/-- The ordinals of the expected database pods. -/
def ordinals (c : Cluster) : List Nat := List.range c.spec.database.size.toInt.toNat

/-- The name of an expected database pod. -/
def expectedPod (c : Cluster) (ordinal : Nat) : String := podName (c.tierSet .database) ordinal

/-- What speaks against an expected pod having crashed. -/
def podObstacle? (pods : List PodObservation) (name : String) : Option RecoveryObstacle :=
  match pods.find? (·.name = name) with
  | none => some .podMissing
  | some pod => if !pod.running then some .podNotRunning else if pod.ready then some .podReady else none

/-- What speaks against so many expected pods, from an ordinal on, having crashed. -/
def podsObstacle? (c : Cluster) (pods : List PodObservation) : (count ordinal : Nat) → Option RecoveryObstacle
  | 0, _ => none
  | count + 1, ordinal =>
    podObstacle? pods (expectedPod c ordinal) <|> podsObstacle? c pods count (ordinal + 1)

/-- What speaks against the cluster having crashed. -/
def obstacle? (c : Cluster) (pods : List PodObservation) : Option RecoveryObstacle :=
  if !c.spec.database.autoRecovery then some .autoRecoveryDisabled
  else if c.spec.paused then some .paused
  else if c.spec.database.size = 0 then some .noPodsDeclared
  else podsObstacle? c pods c.spec.database.size.toInt.toNat 0

variable {σ : Type}

/-- Whether a database pod waits to be told to start a new cluster. -/
def isWaiting (ns pod : String) : Pass σ Bool := do
  return CrashLog.isBanner (← call (.logs ns pod databaseContainer CrashLog.lineCount))

/-- What a pod says of itself, or why the cluster cannot be taken for crashed after all. -/
def signature (ns : String) (c : Cluster) (ordinal : Nat) : Pass σ (Except SkipReason Signature) := do
  let pod := expectedPod c ordinal
  match ← attempt (call (.logs ns pod databaseContainer CrashLog.lineCount)) with
  | .error e => if e.isNotFound then return .error .podDisappeared else fail e
  | .ok log =>
    if CrashLog.isBanner log then
      match CrashLog.seqno pod log with
      | .ok seqno => return .ok ⟨pod, ordinal, seqno⟩
      | .error e => fail e
    else return .error .noBanner

/-- What the given pods say of themselves, up to the first that has nothing to say. -/
def signatures (ns : String) (c : Cluster) : List Nat → Pass σ (Except SkipReason (List Signature))
  | [] => return .ok []
  | ordinal :: rest => do
    match ← signature ns c ordinal with
    | .error reason => return .error reason
    | .ok first =>
      match ← signatures ns c rest with
      | .error reason => return .error reason
      | .ok others => return .ok (first :: others)

/-- Tell a pod to start a new cluster, and give it time to do so. -/
def signal (settings : Settings) (ns : String) (c : Cluster) (leader : Signature) : Pass σ RecoveryOutcome := do
  if (← call (.getPod ns leader.pod)).isNone then return .skipped .leaderDisappeared
  let output ← call (.exec ns leader.pod databaseContainer startCommand none false)
  if !output.stderr.isEmpty then
    fail (.exec leader.pod ("invalid exec command return: " ++ output.stderr))
  measure ns c.name .recovered
  wait (.settle settings.settle)
  return .signalled leader.pod leader.seqno

/-- Recover a cluster if it has crashed. There is no room for a negative number of signatures. -/
def recover (settings : Settings) (c : Cluster) (pods : List PodObservation) : Pass σ RecoveryOutcome := do
  let some ns := c.metadata.ns? | fail .missingNamespace
  if let some obstacle := obstacle? c pods then return .skipped (.obstacle obstacle)
  if c.spec.database.size < 0 then throw (.overflow .capacity)
  match ← signatures ns c (ordinals c) with
  | .error reason => return .skipped reason
  | .ok found =>
    match Signature.leader? found with
    | none => return .skipped .noCrashedPods
    | some leader => signal settings ns c leader

end Recovery

end GaleraOperator
