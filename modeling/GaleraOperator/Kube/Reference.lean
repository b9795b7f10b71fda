import GaleraOperator.Kube.Meta

/-!
# References

How objects name other objects.
-/

namespace GaleraOperator.Kube

open Json

/-- A reference to an object, of which the operator reads the name. -/
structure ObjectReference where
  name : Option String
  carried : Members
  deriving DecidableEq, Repr

/-- The decoder of references. -/
def ObjectReference.decoder : Decoder ObjectReference := Fields.lenient "ObjectReference" <|
  mk <$> Fields.optional "name" .text
    <*> Fields.carried (Slot.optionals .text ["apiVersion", "fieldPath", "kind", "namespace", "resourceVersion", "uid"])

/-- A reference as a document. -/
def ObjectReference.toJson (r : ObjectReference) : Json := objectJson [("name", r.name.map .string)] r.carried

namespace Reference

/-- A reference to an object of the same namespace whose type is known. -/
def localObject : Shape := .lenient "LocalObjectReference" [.filled "name" .text]

/-- A reference to an object of the same namespace. -/
def typedLocalObject : Shape := .lenient "TypedLocalObjectReference" <|
  .optional "apiGroup" .text :: Slot.filledAll .text ["kind", "name"]

/-- A reference to an object of any namespace. -/
def typedObject : Shape := .lenient "TypedObjectReference" <|
  Slot.optionals .text ["apiGroup", "namespace"] ++ Slot.filledAll .text ["kind", "name"]

end Reference

end GaleraOperator.Kube
