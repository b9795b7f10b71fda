import GaleraOperator.Kube.PodSpec

/-!
# StatefulSets

The sets of pods of a component, with the templates of their claims and how far a rollout has come.
-/

namespace GaleraOperator.Kube

open Json

/-- What a StatefulSet is made from. -/
structure StatefulSetSpec where
  template : PodTemplate
  volumeClaimTemplates : Option (List Claim)
  carried : Members
  deriving DecidableEq, Repr

/-- How the pods of a StatefulSet are replaced by newer ones. -/
def StatefulSetSpec.updateStrategy : Shape := .lenient "StatefulSetUpdateStrategy" [
  .optional "rollingUpdate" <| .lenient "RollingUpdateStatefulSetStrategy"
    [.optional "maxUnavailable" (.leaf .integerOrText), .optional "partition" .int32],
  .optional "type" .text]

/-- The members of what a StatefulSet is made from that the operator does not read. -/
def StatefulSetSpec.carriedFields : List (Slot Shape) :=
  Slot.optionals .int32 ["minReadySeconds", "replicas", "revisionHistoryLimit"] ++ [
    .optional "ordinals" (.lenient "StatefulSetOrdinals" [.optional "start" .int32]),
    .optional "persistentVolumeClaimRetentionPolicy" <|
      .lenient "StatefulSetPersistentVolumeClaimRetentionPolicy" (Slot.optionals .text ["whenDeleted", "whenScaled"]),
    .optional "podManagementPolicy" .text,
    .filled "selector" labelSelector,
    .filled "serviceName" .text,
    .optional "updateStrategy" updateStrategy]

/-- The decoder of what StatefulSets are made from. -/
def StatefulSetSpec.decoder : Decoder StatefulSetSpec := Fields.lenient "StatefulSetSpec" <|
  mk <$> Fields.filled "template" PodTemplate.decoder
    <*> Fields.optional "volumeClaimTemplates" (.list Claim.decoder)
    <*> Fields.carried carriedFields

/-- What a StatefulSet is made from, as a document. -/
def StatefulSetSpec.toJson (s : StatefulSetSpec) : Json :=
  objectJson [
    ("template", some s.template.toJson),
    ("volumeClaimTemplates", s.volumeClaimTemplates.map fun cs ↦ .array (cs.map Claim.toJson))] s.carried

/-- How far a StatefulSet has come. -/
structure StatefulSetStatus where
  currentRevision : Option String
  replicas : Int32
  updateRevision : Option String
  updatedReplicas : Option Int32
  carried : Members
  deriving DecidableEq, Repr

/-- The members of the status of a StatefulSet that the operator does not read. -/
def StatefulSetStatus.carriedFields : List (Slot Shape) :=
  Slot.optionals .int32 ["availableReplicas", "collisionCount", "currentReplicas", "readyReplicas"] ++ [
    .optional "conditions" <| .list <| .lenient "StatefulSetCondition" <|
      Slot.optionals .text ["message", "reason"] ++ Slot.filledAll .text ["status", "type"] ++
        [.optional "lastTransitionTime" .seconds],
    .optional "observedGeneration" .int64]

/-- The decoder of the statuses of StatefulSets. -/
def StatefulSetStatus.decoder : Decoder StatefulSetStatus := Fields.lenient "StatefulSetStatus" <|
  mk <$> Fields.optional "currentRevision" .text
    <*> Fields.filled "replicas" .int32
    <*> Fields.optional "updateRevision" .text
    <*> Fields.optional "updatedReplicas" .int32
    <*> Fields.carried carriedFields

/-- How far a StatefulSet has come, as a document. -/
def StatefulSetStatus.toJson (s : StatefulSetStatus) : Json :=
  objectJson [
    ("currentRevision", s.currentRevision.map .string),
    ("replicas", some (.int s.replicas.toInt)),
    ("updateRevision", s.updateRevision.map .string),
    ("updatedReplicas", s.updatedReplicas.map fun n ↦ .int n.toInt)] s.carried

/-- A StatefulSet. -/
structure StatefulSet where
  metadata : ObjectMeta
  spec : Option StatefulSetSpec
  status : Option StatefulSetStatus
  deriving DecidableEq, Repr

namespace StatefulSet

/-- The decoder of StatefulSets. -/
def decoder : Decoder StatefulSet := objectDecoder "apps/v1" "StatefulSet" <|
  mk <$> Fields.filled "metadata" ObjectMeta.decoder
    <*> Fields.optional "spec" StatefulSetSpec.decoder
    <*> Fields.optional "status" StatefulSetStatus.decoder

/-- A StatefulSet as a document. -/
def toJson (s : StatefulSet) : Json :=
  .ofFields (typeFields "apps/v1" "StatefulSet" ++ [
    ("metadata", some s.metadata.toJson),
    ("spec", s.spec.map StatefulSetSpec.toJson),
    ("status", s.status.map StatefulSetStatus.toJson)])

/-- Whether some replicas still wait to be updated. -/
def rolloutInProgress (s : StatefulSet) : Bool :=
  match s.status with
  | some status => status.updatedReplicas.getD 0 < status.replicas
  | none => false

/-- The revision that pods are updated to. -/
def updateRevision? (s : StatefulSet) : Option String := s.status.bind (·.updateRevision)

/-- The storage that the template of a claim asks for. -/
def templateRequest? (s : StatefulSet) (claim : String) : Option String := do
  let templates ← (← s.spec).volumeClaimTemplates
  (← templates.find? fun t ↦ t.name = claim).request?

end StatefulSet

end GaleraOperator.Kube
