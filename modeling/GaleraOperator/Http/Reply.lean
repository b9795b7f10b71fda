import GaleraOperator.Error
import GaleraOperator.Http.StatusCode
import GaleraOperator.Kube.Meta

/-!
# Replies

What the cluster's interface replies to requests. A reply of an error code tells why in a document of its own; where
it does not, its text stands for the reason.
-/

namespace GaleraOperator.Http

open Json

/-- A reply to a request. -/
structure Reply where
  status : Nat
  body : String
  deriving DecidableEq, Repr

/-- The decoder of refusals. -/
def refusal : Decoder Refusal := Fields.strict "ErrorResponse" <|
  Refusal.mk <$> Fields.required "status" .text
    <*> Fields.defaulted "message" "" .text
    <*> Fields.defaulted "reason" "" .text
    <*> Fields.required "code" (.map UInt16.toNat .uint16)

/-- Whether a code says that a request failed. -/
def isErrorCode (code : Nat) : Bool := 400 ≤ code && code < 600

/-- What a reply of an error code says. -/
def Reply.refusal (r : Reply) : Refusal :=
  match Http.refusal.read r.body with
  | .ok refusal => refusal
  | .error _ => ⟨statusText r.status, Text.quoted r.body, "Failed to parse error data", r.status⟩

/-- The text of a reply. -/
def Reply.text (r : Reply) : Except Error String :=
  if isErrorCode r.status then .error (.call (.refused r.refusal)) else .ok r.body

/-- The value of a reply. -/
def Reply.value {α : Type} (d : Decoder α) (r : Reply) : Except Error α := do
  let text ← r.text
  match d.read text with
  | .ok a => .ok a
  | .error fault => .error (.call (.unreadable fault))

/-- The value of a reply, or none if the object does not exist. -/
def Reply.value? {α : Type} (d : Decoder α) (r : Reply) : Except Error (Option α) :=
  match r.value d with
  | .ok a => .ok (some a)
  | .error (.call (.refused refusal)) =>
    if refusal.reason = "NotFound" then .ok none else .error (.call (.refused refusal))
  | .error e => .error e

/-- What a list says of itself. -/
structure ListMeta where
  /-- With which token the list goes on, if there is more of it. -/
  next : Option String
  resourceVersion : Option String
  deriving DecidableEq, Repr

/-- The decoder of what lists say of themselves. -/
def ListMeta.decoder : Decoder ListMeta := Fields.lenient "ListMeta" <|
  mk <$> Fields.optional "continue" .text
    <*> Fields.optional "resourceVersion" .text
    <* Fields.known [.optional "remainingItemCount" .int64, .optional "selfLink" .text]

/-- A collection, or a page of it. -/
structure Listing (α : Type) where
  items : List α
  metadata : ListMeta
  deriving DecidableEq, Repr

/-- The decoder of collections. -/
def listing {α : Type} (d : Decoder α) : Decoder (Listing α) := Fields.record .wrapper "ObjectList" <|
  (fun metadata items ↦ ⟨items, metadata⟩) <$> Fields.defaulted "metadata" ⟨none, none⟩ ListMeta.decoder
    <*> Fields.required "items" (.orBlank (.list d))

/-- A cause of what is said in a status. -/
def statusCause : Shape :=
  .record .strict "StatusCause" [.defaulted "reason" .text, .defaulted "message" .text, .defaulted "field" .text]

/-- The details of a status. -/
def statusDetails : Shape :=
  .record .strict "StatusDetails" [
    .defaulted "name" .text, .defaulted "group" .text, .defaulted "kind" .text, .defaulted "uid" .text,
    .defaulted "causes" (.list statusCause), .defaulted "retryAfterSeconds" (.integer false 32)]

/-- The status that a reply to a deletion may consist of. -/
def deletionStatus : Shape :=
  .record .strict "Status" [
    .optional "status" (.word ["Success", "Failure"]), .defaulted "code" (.integer false 16),
    .defaulted "message" .text, .defaulted "reason" .text, .optional "details" statusDetails]

/-- The reply to a deletion: a status, or the object in its last state. Which of them it is shows in the document. -/
def Reply.deletion (object : Shape) (r : Reply) : Except Error Unit := do
  let text ← r.text
  let fitted := do
    let found ← Decoder.document.read text
    let shape := if found.member? "kind" = some (Json.string "Status") then deletionStatus else object
    shape.readText (.ofString text)
  match fitted with
  | .ok _ => .ok ()
  | .error fault => .error (.call (.unreadable fault))

/-- The reply to the deletion of an object, which need not exist. -/
def Reply.deleted (object : Shape) (r : Reply) : Except Error Unit :=
  match r.deletion object with
  | .ok () => .ok ()
  | .error e => if e.code? = some 404 then .ok () else .error e

end GaleraOperator.Http
