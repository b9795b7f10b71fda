import GaleraOperator.Api.Call
import GaleraOperator.Api.Resource
import GaleraOperator.Http.Reply
import GaleraOperator.Http.Request

/-!
# Calls as requests

Every call of the cluster's interface is one request, and its answer is read from the reply. A command is run in a
session that begins with a request of its own.
-/

namespace GaleraOperator.Call

open Http Kube

/-- The collection of a kind in a namespace. -/
def collection (k : ResourceKind) (ns : String) : String := k.path (some ns)

/-- A request for an object. -/
def getRequest (k : ResourceKind) (ns name : String) : Except RequestFault Request :=
  Request.named .get (collection k ns) name "" none

/-- A request for the objects that a query selects. -/
def listRequest (k : ResourceKind) (ns key value : String) : Except RequestFault Request :=
  Request.build .get (collection k ns ++ Text.formQuery [(key, value)]) none

/-- A request to replace an object. -/
def replaceRequest (k : ResourceKind) (ns name part : String) (body : Json) : Except RequestFault Request :=
  Request.named .put (collection k ns) name (part ++ Text.formQuery []) (some body)

/-- A request to delete an object. -/
def deleteRequest (k : ResourceKind) (ns name : String) (propagation : Option String) : Except RequestFault Request :=
  Request.named .delete (collection k ns) name (Text.formQuery [])
    (some (.ofFields [("propagationPolicy", propagation.map .string)]))

/-- A switch of a query that is on. -/
def switch (name : String) (on : Bool) : List (String × String) := if on then [(name, "true")] else []

/-- The query of a session that runs a command. A terminal shows errors with the other output. -/
def sessionQuery (container : String) (command : List String) (stdin tty : Bool) : List (String × String) :=
  switch "stdin" stdin ++ switch "stdout" true ++ switch "stderr" (!tty) ++ switch "tty" tty ++
    ("container", container) :: command.map ("command", ·)

/-- A request for something that a pod does. -/
def podRequest (ns pod part : String) (query : List (String × String)) : Except RequestFault Request :=
  Request.build .get (Target.object (collection .pod ns) pod (part ++ Text.formQuery query)) none

/-- The request that makes a call. -/
def request : Call → Except RequestFault Request
  | .getCluster ns name => getRequest .cluster ns name
  | .replaceCluster ns c => replaceRequest .cluster ns c.name "" c.toJson
  | .replaceClusterStatus ns c => replaceRequest .cluster ns c.name "/status" c.toJson
  | .listPods ns selector => listRequest .pod ns "labelSelector" selector
  | .getPod ns name => getRequest .pod ns name
  | .getStatefulSet ns name => getRequest .statefulSet ns name
  | .orphanStatefulSet ns name => deleteRequest .statefulSet ns name (some "Orphan")
  | .listClaims ns selector => listRequest .claim ns "labelSelector" selector
  | .replaceClaim ns claim => replaceRequest .claim ns claim.name "" claim.toJson
  | .listEvents ns object => listRequest .event ns "fieldSelector" ("regarding.name=" ++ object)
  | .listCronJobs ns selector => listRequest .cronJob ns "labelSelector" selector
  | .getCronJob ns name => getRequest .cronJob ns name
  | .createCronJob ns job => Request.build .post (collection .cronJob ns ++ Text.formQuery []) (some job.toJson)
  | .replaceCronJob ns job => replaceRequest .cronJob ns job.name "" job.toJson
  | .deleteCronJob ns name => deleteRequest .cronJob ns name (some "Background")
  | .listBackups ns selector => listRequest .backup ns "labelSelector" selector
  | .deleteBackup ns name => deleteRequest .backup ns name none
  | .logs ns pod container lines =>
    podRequest ns pod "/log" [("container", container), ("tailLines", toString lines)]
  | .exec ns pod container command stdin tty =>
    podRequest ns pod "/exec" (sessionQuery container command stdin.isSome tty)

/-- The items of a reply that is a collection. -/
def items {α : Type} (d : Json.Decoder α) (r : Reply) : Except Error (List α) := (r.value (listing d)).map (·.items)

/-- The answer to a call, as a reply gives it. What is no session cannot run a command. -/
def answer : (c : Call) → Reply → Except Error c.Answer
  | .getCluster .., r => r.value? Cluster.decoder
  | .replaceCluster .., r => r.value Cluster.decoder
  | .replaceClusterStatus .., r => r.value Cluster.decoder
  | .listPods .., r => items Pod.decoder r
  | .getPod .., r => r.value? Pod.decoder
  | .getStatefulSet .., r => r.value? StatefulSet.decoder
  | .orphanStatefulSet .., r => r.deleted StatefulSet.decoder.shape
  | .listClaims .., r => items Claim.decoder r
  | .replaceClaim .., r => r.value Claim.decoder
  | .listEvents .., r => items Event.decoder r
  | .listCronJobs .., r => items CronJob.decoder r
  | .getCronJob .., r => r.value? CronJob.decoder
  | .createCronJob .., r => r.value CronJob.decoder
  | .replaceCronJob .., r => r.value CronJob.decoder
  | .deleteCronJob .., r => r.deleted CronJob.decoder.shape
  | .listBackups .., r => items Backup.decoder r
  | .deleteBackup .., r => r.deleted Backup.decoder.shape
  | .logs .., r => r.text
  | .exec .., r => .error (.call (.notUpgraded (.refused r.status)))

/-- Make a call at a server; one that cannot be put as a request is not made. -/
def send {W : Type} (server : Request → W → Reply × W) (c : Call) (w : W) : Except Error c.Answer × W :=
  match c.request with
  | .ok r =>
    let (reply, w) := server r w
    (c.answer reply, w)
  | .error fault => (.error (.call (.unsendable fault)), w)

end GaleraOperator.Call
