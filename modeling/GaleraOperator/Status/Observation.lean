import GaleraOperator.Backoff
import GaleraOperator.Cluster.Tier
import GaleraOperator.Kube.Pod

/-!
# From observations to states

What a pass learns about the pods of a tier, and what it concludes: how many pods are ready, which state the tier is
in, and what there is to say about it. The state of the cluster is the worst of its tiers.
-/

namespace GaleraOperator

/-- What was learned about a pod. -/
structure PodObservation where
  name : String
  running : Bool
  /-- Whether the pod counts as ready after all checks. -/
  ready : Bool
  /-- What the containers of a pod that is not ready wait for. -/
  waiting : List String
  /-- Since when the pod cannot be scheduled, and why. -/
  unschedulable : Option (Instant × String)
  deriving DecidableEq, Repr

/-- What was learned about a tier. -/
structure TierObservation where
  size : Int32
  paused : Bool
  pods : List PodObservation
  /-- Whether some pods still wait to be updated. -/
  upgrading : Bool
  deriving DecidableEq, Repr

/-- Whether a pod was made from the revision that its StatefulSet is updated to. -/
def onUpdateRevision (pod : Kube.Pod) (updateRevision : Option String) : Bool :=
  match pod.metadata.labelsOrNone.get? revisionLabel, updateRevision with
  | some revision, some update => revision = update
  | _, _ => false

namespace TierObservation

/-- The number of pods that are ready. It is counted in as many bits as the size has. -/
def readyCount (o : TierObservation) : Int32 := .ofNat (o.pods.countP (·.ready))

/-- How long a pod may be left without a place before the reason is told. -/
def schedulingGrace : Duration := 60 * Duration.second

/-- Why a pod has been without a place for too long, for the first such pod. -/
def overdue? (o : TierObservation) (now : Instant) : Option String :=
  o.pods.findSome? fun pod ↦ do
    let (since, reason) ← pod.unschedulable
    if (schedulingGrace : Int) < now.since since then some reason else none

/-- What there is to say about a tier. -/
def message (o : TierObservation) (now : Instant) : String :=
  (o.overdue? now).getD (String.join ((o.pods.flatMap (·.waiting)).map (· ++ "; ")))

/-- The state of a tier. -/
def state (o : TierObservation) : ClusterState :=
  if o.paused then if o.readyCount = 0 then .paused else .stopping
  else if o.readyCount = o.size then .ready
  else .initializing

/-- What is known of a tier after an observation. -/
def evaluate (o : TierObservation) (now : Instant) : TierStatus where
  size := o.size
  ready := o.readyCount
  state := o.state
  message := o.message now

end TierObservation

/-- The state of a cluster with tiers in the given states. While pods are updated it is not ready. -/
def overallState (states : List ClusterState) (upgrading : Bool) : ClusterState :=
  let worst := states.foldl .join .ready
  if upgrading then worst.join .initializing else worst

end GaleraOperator
