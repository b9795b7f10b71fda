import GaleraOperator.Api.Resource
import GaleraOperator.Dict
import GaleraOperator.Http.Reply
import GaleraOperator.Http.Request
import GaleraOperator.Json.Printer

/-!
# Scripted servers

A server that has its replies laid down. Each method and path has a list of them, which are given out in turn, the
last one for all further requests; where there is no list the server behaves as one that holds no objects and takes
every one it is given.
-/

namespace GaleraOperator.Http

/-- The next of several things that are given out in turn, and what is left of them: the last one repeats. -/
def nextInTurn {α : Type} : List α → Option (α × List α)
  | [] => none
  | [last] => some (last, [last])
  | first :: rest => some (first, rest)

/-- The replies that are laid down, by method and path. -/
abbrev Script := Dict (List Reply)

namespace Script

/-- Under what the replies to a request are laid down. -/
def key (r : Request) : String := r.method.text ++ " " ++ Target.path r.target

/-- The kinds of objects. -/
def kinds : List ResourceKind := [.cluster, .pod, .statefulSet, .claim, .event, .cronJob, .backup]

/-- Whether a target is a collection and no object in one. -/
def isCollection (target : String) : Bool :=
  kinds.any fun k ↦ ("/" ++ k.plural).toList.isSuffixOf (Target.path target).toList

/-- A collection without objects. -/
def emptyCollection : Json :=
  .object [("metadata", .object [("resourceVersion", .string "1")]), ("items", .array [])]

/-- What is said of an object that does not exist. -/
def missingObject : Json :=
  .object [("kind", .string "Status"), ("apiVersion", .string "v1"), ("status", .string "Failure"),
    ("message", .string "not found"), ("reason", .string "NotFound"), ("code", .nat 404)]

/-- What is said of a deletion. -/
def deletedObject : Json :=
  .object [("kind", .string "Status"), ("apiVersion", .string "v1"), ("status", .string "Success")]

/-- The reply to a request for which none is laid down. -/
def standardReply (r : Request) : Reply :=
  match r.method with
  | .get =>
    if isCollection r.target then ⟨200, emptyCollection.text⟩ else ⟨404, missingObject.text⟩
  | .delete => ⟨200, deletedObject.text⟩
  | .put | .post => ⟨200, (r.body.getD .null).text⟩

/-- The reply to a request, and the script for the requests after it. -/
def reply (s : Script) (r : Request) : Reply × Script :=
  match nextInTurn ((s.get? (key r)).getD []) with
  | some (reply, rest) => (reply, s.insert (key r) rest)
  | none => (standardReply r, s)

end Script

end GaleraOperator.Http
