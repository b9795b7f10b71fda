import GaleraOperator.Kube.Condition
import GaleraOperator.Kube.Reference

/-!
# Volume claims

Claims of volumes, with the storage they ask for and the capacity they have.
-/

namespace GaleraOperator.Kube

open Json

/-- The resource that a claim asks for. -/
def storageResource : String := "storage"

/-- The resources that a claim asks for. -/
structure ClaimResources where
  requests : Option (Dict String)
  carried : Members
  deriving DecidableEq, Repr

/-- The decoder of the resources of claims. -/
def ClaimResources.decoder : Decoder ClaimResources := Fields.lenient "VolumeResourceRequirements" <|
  mk <$> Fields.optional "requests" (.dict .text) <*> Fields.carried [.optional "limits" .texts]

/-- The resources of a claim as a document. -/
def ClaimResources.toJson (r : ClaimResources) : Json :=
  objectJson [("requests", r.requests.map dictJson)] r.carried

/-- What a claim asks for. -/
structure ClaimSpec where
  resources : Option ClaimResources
  carried : Members
  deriving DecidableEq, Repr

/-- The members of what a claim asks for that the operator does not read. -/
def ClaimSpec.carriedFields : List (Slot Shape) :=
  Slot.optionals .text ["storageClassName", "volumeAttributesClassName", "volumeMode", "volumeName"] ++ [
    .optional "accessModes" (.list .text),
    .optional "dataSource" Reference.typedLocalObject,
    .optional "dataSourceRef" Reference.typedObject,
    .optional "selector" labelSelector]

/-- The decoder of what claims ask for. -/
def ClaimSpec.decoder : Decoder ClaimSpec := Fields.lenient "PersistentVolumeClaimSpec" <|
  mk <$> Fields.optional "resources" ClaimResources.decoder <*> Fields.carried carriedFields

/-- What a claim asks for, as a document. -/
def ClaimSpec.toJson (s : ClaimSpec) : Json :=
  objectJson [("resources", s.resources.map ClaimResources.toJson)] s.carried

/-- What a claim has. -/
structure ClaimStatus where
  capacity : Option (Dict String)
  conditions : Option (List Condition)
  carried : Members
  deriving DecidableEq, Repr

/-- The members of what a claim has that the operator does not read. -/
def ClaimStatus.carriedFields : List (Slot Shape) :=
  Slot.optionals .text ["currentVolumeAttributesClassName", "phase"] ++
  Slot.optionals .texts ["allocatedResourceStatuses", "allocatedResources"] ++ [
    .optional "accessModes" (.list .text),
    .optional "modifyVolumeStatus" (.lenient "ModifyVolumeStatus"
      [.filled "status" .text, .optional "targetVolumeAttributesClassName" .text])]

/-- The decoder of what claims have. -/
def ClaimStatus.decoder : Decoder ClaimStatus := Fields.lenient "PersistentVolumeClaimStatus" <|
  mk <$> Fields.optional "capacity" (.dict .text)
    <*> Fields.optional "conditions" (.list (Condition.decoder "PersistentVolumeClaimCondition"))
    <*> Fields.carried carriedFields

/-- What a claim has, as a document. -/
def ClaimStatus.toJson (s : ClaimStatus) : Json :=
  objectJson [
    ("capacity", s.capacity.map dictJson),
    ("conditions", s.conditions.map fun cs ↦ .array (cs.map Condition.toJson))] s.carried

/-- A claim of a volume. -/
structure Claim where
  metadata : ObjectMeta
  spec : Option ClaimSpec
  status : Option ClaimStatus
  deriving DecidableEq, Repr

namespace Claim

/-- The decoder of claims. -/
def decoder : Decoder Claim := objectDecoder "v1" "PersistentVolumeClaim" <|
  mk <$> Fields.filled "metadata" ObjectMeta.decoder
    <*> Fields.optional "spec" ClaimSpec.decoder
    <*> Fields.optional "status" ClaimStatus.decoder

/-- A claim as a document. -/
def toJson (c : Claim) : Json :=
  .ofFields (typeFields "v1" "PersistentVolumeClaim" ++ [
    ("metadata", some c.metadata.toJson),
    ("spec", c.spec.map ClaimSpec.toJson),
    ("status", c.status.map ClaimStatus.toJson)])

/-- The name of the claim. -/
def name (c : Claim) : String := c.metadata.displayName

/-- The storage that the claim has. -/
def capacity? (c : Claim) : Option String := do
  (← (← c.status).capacity).get? storageResource

/-- The storage that the claim asks for. -/
def request? (c : Claim) : Option String := do
  (← (← (← c.spec).resources).requests).get? storageResource

/-- Whether the claim says of itself that it is being resized. -/
def isResizing (c : Claim) : Bool :=
  ((c.status.bind (·.conditions)).getD []).any fun condition ↦
    condition.isTrue && (condition.type = "Resizing" || condition.type = "FileSystemResizePending")

/-- The claim with another request for storage. -/
def withRequest (c : Claim) (quantity : String) : Claim :=
  let spec := c.spec.getD ⟨none, []⟩
  let resources := spec.resources.getD ⟨none, []⟩
  let requests := (resources.requests.getD .empty).insert storageResource quantity
  { c with spec := some { spec with resources := some { resources with requests := some requests } } }

end Claim

end GaleraOperator.Kube
