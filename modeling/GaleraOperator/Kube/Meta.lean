import GaleraOperator.Json.Decode
import GaleraOperator.Selector

/-!
# Metadata of objects

What every object of the cluster's interface carries: its name, its labels and annotations, who owns it and when it
came to be. Members of an object that the operator does not read are carried along in their normal form.
-/

namespace GaleraOperator.Kube

open Json

/-- Strings under keys, as a document. -/
def dictJson (d : Dict String) : Json := .object (d.toList.map fun (key, value) ↦ (key, .string value))

/-- An object of the given members and of carried ones. -/
def objectJson (fields : List (String × Option Json)) (carried : Members) : Json :=
  .ofFields (fields ++ carried.map fun (name, value) ↦ (name, some value))

/-- A reference to the object that owns another. -/
structure OwnerReference where
  apiVersion : String
  blockOwnerDeletion : Option Bool
  controller : Option Bool
  kind : String
  name : String
  uid : String
  deriving DecidableEq, Repr

namespace OwnerReference

/-- The decoder of owner references. -/
def decoder : Decoder OwnerReference := Fields.lenient "OwnerReference" <|
  mk <$> Fields.filled "apiVersion" .text
    <*> Fields.optional "blockOwnerDeletion" .truth
    <*> Fields.optional "controller" .truth
    <*> Fields.filled "kind" .text
    <*> Fields.filled "name" .text
    <*> Fields.filled "uid" .text

/-- An owner reference as a document. -/
def toJson (r : OwnerReference) : Json :=
  .ofFields [
    ("apiVersion", some (.string r.apiVersion)),
    ("blockOwnerDeletion", r.blockOwnerDeletion.map .bool),
    ("controller", r.controller.map .bool),
    ("kind", some (.string r.kind)),
    ("name", some (.string r.name)),
    ("uid", some (.string r.uid))]

end OwnerReference

/-- The metadata of an object. -/
structure ObjectMeta where
  annotations : Option (Dict String)
  creationTimestamp : Option Instant
  deletionTimestamp : Option Instant
  generateName : Option String
  generation : Option Int64
  labels : Option Labels
  name : Option String
  ns? : Option String
  ownerReferences : Option (List OwnerReference)
  resourceVersion : Option String
  uid : Option String
  /-- Members that the operator does not read. -/
  carried : Members
  deriving DecidableEq, Repr

namespace ObjectMeta

/-- Metadata that says nothing. -/
def empty : ObjectMeta :=
  ⟨none, none, none, none, none, none, none, none, none, none, none, []⟩

instance : Inhabited ObjectMeta := ⟨empty⟩

/-- Who manages which members of an object. -/
def managedFields : Shape := .lenient "ManagedFieldsEntry" <|
  Slot.optionals .text ["apiVersion", "fieldsType", "manager", "operation", "subresource"] ++
    [.optional "fieldsV1" .document, .optional "time" .seconds]

/-- The members of metadata that the operator does not read. -/
def carriedFields : List (Slot Shape) := [
  .optional "deletionGracePeriodSeconds" .int64,
  .optional "finalizers" (.list .text),
  .optional "managedFields" (.list managedFields),
  .optional "selfLink" .text]

/-- The decoder of metadata, given that of the points in time. -/
def decoderWith (time : Decoder Instant) : Decoder ObjectMeta := Fields.lenient "ObjectMeta" <|
  mk <$> Fields.optional "annotations" (.dict .text)
    <*> Fields.optional "creationTimestamp" time
    <*> Fields.optional "deletionTimestamp" time
    <*> Fields.optional "generateName" .text
    <*> Fields.optional "generation" .int64
    <*> Fields.optional "labels" (.dict .text)
    <*> Fields.optional "name" .text
    <*> Fields.optional "namespace" .text
    <*> Fields.optional "ownerReferences" (.list OwnerReference.decoder)
    <*> Fields.optional "resourceVersion" .text
    <*> Fields.optional "uid" .text
    <*> Fields.carried carriedFields

/-- The decoder of metadata. -/
def decoder : Decoder ObjectMeta := decoderWith .instant

/-- Metadata that is carried along. -/
def shape : Shape := (decoderWith .seconds).shape

/-- The members of metadata. -/
def fields (m : ObjectMeta) : List (String × Option Json) := [
  ("annotations", m.annotations.map dictJson),
  ("creationTimestamp", m.creationTimestamp.map fun t ↦ .string t.toSecondsText),
  ("deletionTimestamp", m.deletionTimestamp.map fun t ↦ .string t.toSecondsText),
  ("generateName", m.generateName.map .string),
  ("generation", m.generation.map fun n ↦ .int n.toInt),
  ("labels", m.labels.map dictJson),
  ("name", m.name.map .string),
  ("namespace", m.ns?.map .string),
  ("ownerReferences", m.ownerReferences.map fun rs ↦ .array (rs.map OwnerReference.toJson)),
  ("resourceVersion", m.resourceVersion.map .string),
  ("uid", m.uid.map .string)]

/-- Metadata as a document. -/
def toJson (m : ObjectMeta) : Json := objectJson m.fields m.carried

/-- What the object is called; before the server has chosen a name, the beginning of the name. -/
def displayName (m : ObjectMeta) : String := (m.name <|> m.generateName).getD ""

/-- The labels, none where there is no dictionary of them. -/
def labelsOrNone (m : ObjectMeta) : Labels := m.labels.getD .empty

end ObjectMeta

/-- A condition on labels. -/
def labelRequirement : Shape := .lenient "LabelSelectorRequirement" <|
  Slot.filledAll .text ["key", "operator"] ++ [.optional "values" (.list .text)]

/-- What is asked of the labels of objects. -/
def labelSelector : Shape := .lenient "LabelSelector" [
  .optional "matchExpressions" (.list labelRequirement),
  .optional "matchLabels" .texts]

/-- The members that say which type of object a document is. They may be left out but not be wrong. -/
def typeShape (version kind : String) : List (Slot Shape) :=
  [.defaulted "apiVersion" (.literal version), .defaulted "kind" (.literal kind)]

/-- The members that say which type of object a document is. -/
def typeFields (version kind : String) : List (String × Option Json) :=
  [("apiVersion", some (.string version)), ("kind", some (.string kind))]

/-- An object of the given type, with the members besides those that say so. -/
def objectDecoder {α : Type} (version kind : String) (fs : Json.Fields α) : Decoder α :=
  Fields.lenient kind (fs <* Fields.known (typeShape version kind))

end GaleraOperator.Kube
