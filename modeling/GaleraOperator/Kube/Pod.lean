import GaleraOperator.Kube.Condition
import GaleraOperator.Kube.PodSpec

/-!
# Pods

Pods with what the operator reads of their status: the phase, the conditions and what their containers wait for.
-/

namespace GaleraOperator.Kube

open Json

/-- What a container waits for. -/
structure WaitingState where
  message : Option String
  reason : Option String
  deriving DecidableEq, Repr

/-- The decoder of what containers wait for. -/
def WaitingState.decoder : Decoder WaitingState := Fields.lenient "ContainerStateWaiting" <|
  mk <$> Fields.optional "message" .text <*> Fields.optional "reason" .text

/-- What a container waits for, as a document. -/
def WaitingState.toJson (w : WaitingState) : Json :=
  .ofFields [("message", w.message.map .string), ("reason", w.reason.map .string)]

/-- The state that a container is in. -/
structure ContainerState where
  waiting : Option WaitingState
  carried : Members
  deriving DecidableEq, Repr

/-- How a container ended. -/
def ContainerState.terminated : Shape := .lenient "ContainerStateTerminated" <|
  Slot.optionals .text ["containerID", "message", "reason"] ++ Slot.optionals .seconds ["finishedAt", "startedAt"] ++
    [.filled "exitCode" .int32, .optional "signal" .int32]

/-- The members of the state of a container that the operator does not read. -/
def ContainerState.carriedFields : List (Slot Shape) := [
  .optional "running" (.lenient "ContainerStateRunning" [.optional "startedAt" .seconds]),
  .optional "terminated" terminated]

/-- The decoder of the states of containers. -/
def ContainerState.decoder : Decoder ContainerState := Fields.lenient "ContainerState" <|
  mk <$> Fields.optional "waiting" WaitingState.decoder <*> Fields.carried carriedFields

/-- The state of a container as a document. -/
def ContainerState.toJson (s : ContainerState) : Json :=
  objectJson [("waiting", s.waiting.map WaitingState.toJson)] s.carried

/-- The status of a container. -/
structure ContainerStatus where
  name : String
  state : Option ContainerState
  carried : Members
  deriving DecidableEq, Repr

namespace ContainerStatus

open Slot

/-- How the resources of a container are. -/
def resourceStatus : Shape := .lenient "ResourceStatus" [
  .filled "name" .text,
  .optional "resources" <| .list <| .lenient "ResourceHealth" [.optional "health" .text, .filled "resourceID" .text]]

/-- As whom a container runs. -/
def user : Shape := .lenient "ContainerUser" [
  .optional "linux" <| .lenient "LinuxContainerUser"
    [.filled "gid" .int64, .optional "supplementalGroups" (.list .int64), .filled "uid" .int64]]

/-- Where a container has found a volume. -/
def volumeMount : Shape := .lenient "VolumeMountStatus" <|
  filledAll .text ["mountPath", "name"] ++ [.optional "readOnly" .truth, .optional "recursiveReadOnly" .text]

/-- The members of the status of a container that the operator does not read. -/
def carriedFields : List (Slot Shape) :=
  filledAll .text ["image", "imageID"] ++ [
    .optional "allocatedResources" .texts,
    .optional "allocatedResourcesStatus" (.list resourceStatus),
    .optional "containerID" .text,
    .optional "lastState" ContainerState.decoder.shape,
    .filled "ready" .truth,
    .optional "resources" Container.resources,
    .filled "restartCount" .int32,
    .optional "started" .truth,
    .optional "user" user,
    .optional "volumeMounts" (.list volumeMount)]

/-- The decoder of the statuses of containers. -/
def decoder : Decoder ContainerStatus := Fields.lenient "ContainerStatus" <|
  mk <$> Fields.filled "name" .text
    <*> Fields.optional "state" ContainerState.decoder
    <*> Fields.carried carriedFields

/-- The status of a container as a document. -/
def toJson (c : ContainerStatus) : Json :=
  objectJson [("name", some (.string c.name)), ("state", c.state.map ContainerState.toJson)] c.carried

/-- What the container says it waits for, if it says something. -/
def waitingMessage? (c : ContainerStatus) : Option String := do
  let waiting ← (← c.state).waiting
  let message ← waiting.message
  if message.isEmpty then none else some (c.name ++ ": " ++ message)

end ContainerStatus

/-- The status of a pod. -/
structure PodStatus where
  conditions : Option (List Condition)
  containerStatuses : Option (List ContainerStatus)
  phase : Option String
  carried : Members
  deriving DecidableEq, Repr

namespace PodStatus

open Slot

/-- The members of the status of a pod that the operator does not read. -/
def carriedFields : List (Slot Shape) :=
  optionals .text ["hostIP", "message", "nominatedNodeName", "podIP", "qosClass", "reason", "resize"] ++
  optionals (.list ContainerStatus.decoder.shape) ["ephemeralContainerStatuses", "initContainerStatuses"] ++ [
    .optional "hostIPs" (PodSpec.named "HostIP" "ip"),
    .optional "podIPs" (PodSpec.named "PodIP" "ip"),
    .optional "resourceClaimStatuses" <| .list <| .lenient "PodResourceClaimStatus"
      [.filled "name" .text, .optional "resourceClaimName" .text],
    .optional "startTime" .seconds]

/-- The decoder of the statuses of pods. -/
def decoder : Decoder PodStatus := Fields.lenient "PodStatus" <|
  mk <$> Fields.optional "conditions" (.list (Condition.decoder "PodCondition"))
    <*> Fields.optional "containerStatuses" (.list ContainerStatus.decoder)
    <*> Fields.optional "phase" .text
    <*> Fields.carried carriedFields

/-- The status of a pod as a document. -/
def toJson (s : PodStatus) : Json :=
  objectJson [
    ("conditions", s.conditions.map fun cs ↦ .array (cs.map Condition.toJson)),
    ("containerStatuses", s.containerStatuses.map fun cs ↦ .array (cs.map ContainerStatus.toJson)),
    ("phase", s.phase.map .string)] s.carried

end PodStatus

/-- A pod. -/
structure Pod where
  metadata : ObjectMeta
  status : Option PodStatus
  carried : Members
  deriving DecidableEq, Repr

namespace Pod

/-- The decoder of pods. -/
def decoder : Decoder Pod := objectDecoder "v1" "Pod" <|
  mk <$> Fields.filled "metadata" ObjectMeta.decoder
    <*> Fields.optional "status" PodStatus.decoder
    <*> Fields.carried [.optional "spec" PodSpec.decoder.shape]

/-- A pod as a document. -/
def toJson (p : Pod) : Json :=
  objectJson (typeFields "v1" "Pod" ++ [
    ("metadata", some p.metadata.toJson),
    ("status", p.status.map PodStatus.toJson)]) p.carried

/-- The name of the pod. -/
def name (p : Pod) : String := p.metadata.displayName

/-- The conditions of the pod. -/
def conditions (p : Pod) : List Condition := (p.status.bind (·.conditions)).getD []

/-- Whether some condition of the type holds. -/
def hasCondition (p : Pod) (type : String) : Bool :=
  p.conditions.any fun c ↦ c.type = type && c.isTrue

/-- Whether all containers of the pod report that they are ready. -/
def containersReady (p : Pod) : Bool := p.hasCondition "ContainersReady"

/-- Whether the pod runs. -/
def isRunning (p : Pod) : Bool := p.status.bind (·.phase) = some "Running"

/-- What the containers of the pod wait for. -/
def waitingMessages (p : Pod) : List String :=
  ((p.status.bind (·.containerStatuses)).getD []).filterMap ContainerStatus.waitingMessage?

/-- Since when the pod cannot be scheduled, and why. -/
def unschedulable? (p : Pod) : Option (Instant × String) := do
  let c ← p.conditions.find? fun c ↦ c.type = "PodScheduled" && c.reason = some "Unschedulable"
  let since ← c.lastTransitionTime
  return (since, c.message.getD "")

end Pod

end GaleraOperator.Kube
