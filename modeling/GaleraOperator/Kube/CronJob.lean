import GaleraOperator.Kube.PodSpec

/-!
# CronJobs

Jobs that run on a schedule, down to the container that they run.
-/

namespace GaleraOperator.Kube

open Json

/-- What a job does. -/
structure JobSpec where
  backoffLimit : Option Int32
  template : PodTemplate
  carried : Members
  deriving DecidableEq, Repr

namespace JobSpec

open Slot

/-- What follows from the end of a pod. -/
def failureRule : Shape := .lenient "PodFailurePolicyRule" [
  .filled "action" .text,
  .optional "onExitCodes" <| .lenient "PodFailurePolicyOnExitCodesRequirement"
    [.optional "containerName" .text, .filled "operator" .text, .filled "values" (.list .int32)],
  .optional "onPodConditions" <| .list <| .lenient "PodFailurePolicyOnPodConditionsPattern" <|
    filledAll .text ["status", "type"]]

/-- When a job has succeeded. -/
def successRule : Shape := .lenient "SuccessPolicyRule"
  [.optional "succeededCount" .int32, .optional "succeededIndexes" .text]

/-- The members of what a job does that the operator does not read. -/
def carriedFields : List (Slot Shape) :=
  optionals .text ["completionMode", "managedBy", "podReplacementPolicy"] ++
  optionals .truth ["manualSelector", "suspend"] ++
  optionals .int32 ["backoffLimitPerIndex", "completions", "maxFailedIndexes", "parallelism",
    "ttlSecondsAfterFinished"] ++ [
    .optional "activeDeadlineSeconds" .int64,
    .optional "podFailurePolicy" (.lenient "PodFailurePolicy" [.filled "rules" (.list failureRule)]),
    .optional "selector" labelSelector,
    .optional "successPolicy" (.lenient "SuccessPolicy" [.filled "rules" (.list successRule)])]

/-- The decoder of what jobs do. -/
def decoder : Decoder JobSpec := Fields.lenient "JobSpec" <|
  mk <$> Fields.optional "backoffLimit" .int32
    <*> Fields.filled "template" PodTemplate.decoder
    <*> Fields.carried carriedFields

/-- What a job does, as a document. -/
def toJson (s : JobSpec) : Json :=
  let limit : Option Json := s.backoffLimit.map fun n ↦ .int n.toInt
  objectJson [("backoffLimit", limit), ("template", some s.template.toJson)] s.carried

end JobSpec

/-- What jobs are made from. -/
structure JobTemplate where
  metadata : Option ObjectMeta
  spec : Option JobSpec
  deriving DecidableEq, Repr

/-- The decoder of what jobs are made from. -/
def JobTemplate.decoder : Decoder JobTemplate := Fields.lenient "JobTemplateSpec" <|
  mk <$> Fields.optional "metadata" ObjectMeta.decoder <*> Fields.optional "spec" JobSpec.decoder

/-- What jobs are made from, as a document. -/
def JobTemplate.toJson (t : JobTemplate) : Json :=
  .ofFields [("metadata", t.metadata.map ObjectMeta.toJson), ("spec", t.spec.map JobSpec.toJson)]

/-- When a CronJob runs what. -/
structure CronJobSpec where
  concurrencyPolicy : Option String
  jobTemplate : JobTemplate
  schedule : String
  successfulJobsHistoryLimit : Option Int32
  carried : Members
  deriving DecidableEq, Repr

namespace CronJobSpec

/-- The members of what a CronJob runs that the operator does not read. -/
def carriedFields : List (Slot Shape) := [
  .optional "failedJobsHistoryLimit" .int32,
  .optional "startingDeadlineSeconds" .int64,
  .optional "suspend" .truth,
  .optional "timeZone" .text]

/-- The decoder of when CronJobs run what. -/
def decoder : Decoder CronJobSpec := Fields.lenient "CronJobSpec" <|
  mk <$> Fields.optional "concurrencyPolicy" .text
    <*> Fields.filled "jobTemplate" JobTemplate.decoder
    <*> Fields.filled "schedule" .text
    <*> Fields.optional "successfulJobsHistoryLimit" .int32
    <*> Fields.carried carriedFields

/-- When a CronJob runs what, as a document. -/
def toJson (s : CronJobSpec) : Json :=
  objectJson [
    ("concurrencyPolicy", s.concurrencyPolicy.map .string),
    ("jobTemplate", some s.jobTemplate.toJson),
    ("schedule", some (.string s.schedule)),
    ("successfulJobsHistoryLimit", s.successfulJobsHistoryLimit.map fun n ↦ .int n.toInt)] s.carried

end CronJobSpec

/-- A CronJob. -/
structure CronJob where
  metadata : ObjectMeta
  spec : Option CronJobSpec
  carried : Members
  deriving DecidableEq, Repr

namespace CronJob

/-- How a CronJob has done. -/
def status : Shape := .lenient "CronJobStatus" <|
  .optional "active" (.list ObjectReference.decoder.shape) ::
    Slot.optionals .seconds ["lastScheduleTime", "lastSuccessfulTime"]

/-- The decoder of CronJobs. -/
def decoder : Decoder CronJob := objectDecoder "batch/v1" "CronJob" <|
  mk <$> Fields.filled "metadata" ObjectMeta.decoder
    <*> Fields.optional "spec" CronJobSpec.decoder
    <*> Fields.carried [.optional "status" status]

/-- A CronJob as a document. -/
def toJson (c : CronJob) : Json :=
  objectJson (typeFields "batch/v1" "CronJob" ++ [
    ("metadata", some c.metadata.toJson),
    ("spec", c.spec.map CronJobSpec.toJson)]) c.carried

/-- The name of the CronJob. -/
def name (c : CronJob) : String := c.metadata.displayName

/-- The container that the CronJob runs. -/
def container? (c : CronJob) : Option Container := do
  let job ← (← c.spec).jobTemplate.spec
  (← job.template.spec).containers.head?

end CronJob

end GaleraOperator.Kube
