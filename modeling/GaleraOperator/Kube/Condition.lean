import GaleraOperator.Kube.Meta

/-!
# Conditions

What is reported of an object: each condition has a type, says whether it holds, and since when.
-/

namespace GaleraOperator.Kube

open Json

/-- A condition of an object. -/
structure Condition where
  lastProbeTime : Option Instant
  lastTransitionTime : Option Instant
  message : Option String
  reason : Option String
  status : String
  type : String
  deriving DecidableEq, Repr

namespace Condition

/-- The decoder of the conditions of a kind of object. -/
def decoder (kind : String) : Decoder Condition := Fields.lenient kind <|
  mk <$> Fields.optional "lastProbeTime" .instant
    <*> Fields.optional "lastTransitionTime" .instant
    <*> Fields.optional "message" .text
    <*> Fields.optional "reason" .text
    <*> Fields.filled "status" .text
    <*> Fields.filled "type" .text

/-- A condition as a document. -/
def toJson (c : Condition) : Json :=
  .ofFields [
    ("lastProbeTime", c.lastProbeTime.map fun t ↦ .string t.toSecondsText),
    ("lastTransitionTime", c.lastTransitionTime.map fun t ↦ .string t.toSecondsText),
    ("message", c.message.map .string),
    ("reason", c.reason.map .string),
    ("status", some (.string c.status)),
    ("type", some (.string c.type))]

/-- Whether the condition holds. -/
def isTrue (c : Condition) : Bool := c.status = "True"

end Condition

end GaleraOperator.Kube
