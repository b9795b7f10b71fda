import GaleraOperator.Cluster.Tier
import GaleraOperator.Pass.ClusterAccess
import GaleraOperator.Text.Search
import GaleraOperator.Volume.Resize

/-!
# Resizing the volumes of a cluster

The owner asks for a size, and the StatefulSet was made with one. A resize is noted on the cluster first; then every
claim is asked to grow; when all have grown, the StatefulSet is deleted without its pods, so that it is made anew with
the new size, and the note is taken back. A resize that cannot succeed is rolled back: the owner's request is set to
what the StatefulSet was made with.
-/

namespace GaleraOperator

open Kube Pass

/-- What came of looking after the volumes. -/
inductive ResizeOutcome where
  | noChange
  | started (claims : Nat)
  | waiting
  | completed
  deriving DecidableEq, Repr

namespace Volume

variable {σ : Type}

/-- What the names of the data claims of a cluster begin with. -/
def claimStem (c : Cluster) : String := dataVolume ++ "-" ++ c.tierSet .database ++ "-"

/-- Whether a claim holds data of a cluster, by its name. -/
def isDataClaim (c : Cluster) (claim : Claim) : Bool := (claimStem c).toList.isPrefixOf claim.name.toList

/-- Whether an error says that claims of this kind cannot grow. -/
def isHardFailure (e : Error) : Bool :=
  Text.contains e.message "exceeded quota" ||
    Text.contains e.message "the storageclass that provisions the pvc must support resize"

/-- The change that notes the start of a resize. -/
def markStarted (time : String) (c : Cluster) : Option Cluster := some (c.withResizeMark time)

/-- The change that takes back the note of a resize, if there is one. -/
def markEnded (c : Cluster) : Option Cluster := if c.resizeMark?.isSome then some c.withoutResizeMark else none

/-- The change that sets the requested storage, if it is another. -/
def setStorage (quantity : String) (c : Cluster) : Option Cluster :=
  if c.requestedStorage = quantity then none else some (c.withStorage quantity)

/-- Give up a resize. -/
def rollBack {α : Type} (settings : Settings) (ns : String) (c : Cluster) (configured reason : String) :
    Pass σ α := do
  measure ns c.name (.resized "failed")
  changeCluster settings ns c.name (setStorage configured)
  changeCluster settings ns c.name markEnded
  fail (.resize reason)

/-- How far a claim has come since a resize was started. -/
def observeClaim (ns : String) (requested : Nat) (started : Instant) (claim : Claim) :
    Pass σ (String × ClaimProgress) := do
  let events ← call (.listEvents ns claim.name)
  return (claim.name, ← orFail (claimProgress claim requested events started))

/-- Look after a resize that was started. -/
def followUp (settings : Settings) (ns : String) (c : Cluster) (claims : List Claim) (configured : String)
    (requested : Nat) (started : Instant) : Pass σ ResizeOutcome := do
  let progress ← claims.mapM (observeClaim ns requested started)
  match (ResizeState.inProgress started).advance progress with
  | .failed reason => rollBack settings ns c configured reason
  | _ =>
    if progress.all (·.2 = .done) then
      call (.orphanStatefulSet ns (c.tierSet .database))
      changeCluster settings ns c.name markEnded
      measure ns c.name (.resized "completed")
      return .completed
    else return .waiting

/-- Ask a claim to grow, unless it has; the answer is whether it was asked. -/
def growClaim (settings : Settings) (ns : String) (c : Cluster) (configured : String) (requested : Nat)
    (claim : Claim) : Pass σ Bool := do
  if (← orFail (capacityBytes claim)) = some requested then return false
  let target ← orOverflow (Quantity.ofBytes requested)
  match ← attempt (call (.replaceClaim ns (claim.withRequest target))) with
  | .ok _ => return true
  | .error e => if isHardFailure e then rollBack settings ns c configured e.message else fail e

/-- Start a resize. -/
def start (settings : Settings) (ns : String) (c : Cluster) (claims : List Claim) (configured : String)
    (requested : Nat) : Pass σ ResizeOutcome := do
  let time ← now
  changeCluster settings ns c.name (markStarted time.toSecondsText)
  let asked ← claims.mapM (growClaim settings ns c configured requested)
  measure ns c.name (.resized "started")
  return .started (asked.count true)

/-- Refuse to make volumes smaller. -/
def refuseShrink (settings : Settings) (ns : String) (c : Cluster) (configured : String) (requested actual : Nat) :
    Pass σ ResizeOutcome := do
  changeCluster settings ns c.name (setStorage configured)
  fail (.shrink (← orOverflow (Quantity.ofBytes requested)) (← orOverflow (Quantity.ofBytes actual)))

/-- What is known of the volumes of a cluster. -/
structure Volumes where
  /-- The data claims, those without a pod included. -/
  all : List Claim
  /-- The data claims of the pods that exist. -/
  used : List Claim
  deriving DecidableEq, Repr

/-- Look up the volumes of a cluster; pods are looked up only if there are any. -/
def find (ns : String) (c : Cluster) : Pass σ Volumes := do
  let selector := (c.tierLabels .database).selector
  let all := (← call (.listClaims ns selector)).filter (isDataClaim c)
  if all.isEmpty then return ⟨[], []⟩
  let names := (← call (.listPods ns selector)).map fun pod ↦ dataClaimName pod.name
  return ⟨all, all.filter fun claim ↦ names.contains claim.name⟩

/-- The least of the capacities that are known. -/
def leastCapacity (claims : List Claim) : Except Failure (Option Nat) :=
  (claims.mapM capacityBytes).map fun capacities ↦ capacities.reduceOption.min?

/-- Decide about volumes of a known least capacity. -/
def decideOn (settings : Settings) (ns : String) (c : Cluster) (claims : List Claim) (actual : Nat)
    (configured : String) : Pass σ ResizeOutcome := do
  let configuredBytes ← orFail (Quantity.alignedBytes configured)
  let requested ← orFail (Quantity.alignedBytes c.requestedStorage)
  match ResizeState.ofCluster c with
  | .error e => fail e
  | .ok (.inProgress started) => followUp settings ns c claims configured requested started
  | .ok _ =>
    if requested < actual then refuseShrink settings ns c configured requested actual
    else if requested = configuredBytes || requested = actual then return .noChange
    else start settings ns c claims configured requested

/-- Look after the volumes of a cluster. -/
def reconcile (settings : Settings) (c : Cluster) : Pass σ ResizeOutcome := do
  let some ns := c.metadata.ns? | fail .missingNamespace
  let volumes ← find ns c
  if volumes.used.isEmpty then return .noChange
  let some actual ← orFail (leastCapacity volumes.all) | return .noChange
  let some set ← call (.getStatefulSet ns (c.tierSet .database)) | return .noChange
  let some configured := set.templateRequest? dataVolume | return .noChange
  decideOn settings ns c volumes.used actual configured

end Volume

end GaleraOperator
