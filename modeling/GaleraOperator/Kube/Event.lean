import GaleraOperator.Kube.Reference

/-!
# Events

Reports of what happened to objects, which tell how the resize of a claim goes.
-/

namespace GaleraOperator.Kube

open Json

/-- An event. -/
structure Event where
  firstTime : Option Instant
  lastTime : Option Instant
  eventTime : Option Instant
  metadata : ObjectMeta
  note : Option String
  reason : Option String
  regarding : Option ObjectReference
  carried : Members
  deriving DecidableEq, Repr

namespace Event

/-- How often an event has been seen. -/
def series : Shape := .lenient "EventSeries"
  [.filled "count" .int32, ⟨"lastObservedTime", .refused, .orNull .micros⟩]

/-- The members of an event that the operator does not read. -/
def carriedFields : List (Slot Shape) :=
  Slot.optionals .text ["action", "reportingController", "reportingInstance", "type"] ++ [
    .optional "deprecatedCount" .int32,
    .optional "deprecatedSource" (.lenient "EventSource" (Slot.optionals .text ["component", "host"])),
    .optional "related" ObjectReference.decoder.shape,
    .optional "series" series]

/-- The decoder of events. -/
def decoder : Decoder Event := objectDecoder "events.k8s.io/v1" "Event" <|
  mk <$> Fields.optional "deprecatedFirstTimestamp" .instant
    <*> Fields.optional "deprecatedLastTimestamp" .instant
    <*> Fields.optional "eventTime" .instant
    <*> Fields.filled "metadata" ObjectMeta.decoder
    <*> Fields.optional "note" .text
    <*> Fields.optional "reason" .text
    <*> Fields.optional "regarding" ObjectReference.decoder
    <*> Fields.carried carriedFields

/-- An event as a document. -/
def toJson (e : Event) : Json :=
  objectJson (typeFields "events.k8s.io/v1" "Event" ++ [
    ("deprecatedFirstTimestamp", e.firstTime.map fun t ↦ .string t.toSecondsText),
    ("deprecatedLastTimestamp", e.lastTime.map fun t ↦ .string t.toSecondsText),
    ("eventTime", e.eventTime.map fun t ↦ .string t.toMicrosText),
    ("metadata", some e.metadata.toJson),
    ("note", e.note.map .string),
    ("reason", e.reason.map .string),
    ("regarding", e.regarding.map ObjectReference.toJson)]) e.carried

/-- When the event happened, as far as it is known. -/
def time? (e : Event) : Option Instant := e.eventTime <|> e.firstTime

/-- The name of the object that the event is about. -/
def regardingName? (e : Event) : Option String := e.regarding.bind (·.name)

end Event

end GaleraOperator.Kube
