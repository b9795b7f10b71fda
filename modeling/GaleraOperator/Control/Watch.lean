import GaleraOperator.Control.Memory
import GaleraOperator.Control.Site

/-!
# Watching

The operator watches the clusters and what it makes for them. It lists each kind page by page, and from then on asks to
be told of what happens after the version of the list. The kinds have their turns one after the other. A turn ends with
the next request, with an object that gives reason to look at a cluster, or with a failure; after a failure the list is
begun anew, and all kinds have to wait before they go on.
-/

namespace GaleraOperator

open Http

/-- What watching has to do with an object. -/
inductive Sighting where
  | cluster (c : Cluster)
  /-- An object that a cluster may own; only its metadata is asked for. -/
  | possession (metadata : Kube.ObjectMeta)
  deriving DecidableEq, Repr

namespace Sighting

/-- The decoder of the objects of a kind. -/
def decoder : ResourceKind → Json.Decoder Sighting
  | .cluster => .map .cluster Cluster.decoder
  | _ => Json.Fields.record .wrapper "PartialObjectMeta" <|
    .possession <$> .defaulted "metadata" .empty Kube.ObjectMeta.decoder

/-- The metadata of the object. -/
def metadata : Sighting → Kube.ObjectMeta
  | .cluster c => c.metadata
  | .possession metadata => metadata

/-- Whether the object gives reason to look at a cluster. -/
def concernsCluster : Sighting → Bool
  | .cluster _ => true
  | .possession metadata =>
    (metadata.ownerReferences.getD []).any fun owner ↦ owner.apiVersion = apiVersion && owner.kind = clusterKind

/-- Keep the object under its key if it is a cluster. -/
def keepIn (clusters : Dict Cluster) : Sighting → Dict Cluster
  | .cluster c => clusters.insert (clusterKey (c.metadata.ns?.getD "") c.name) c
  | .possession _ => clusters

end Sighting

/-- What the watching of a kind does next. -/
inductive WatchStage where
  /-- It begins with the list. -/
  | begin
  /-- It asks for the list, or for where the list goes on. -/
  | list (next : Option String)
  /-- It goes through a page. -/
  | page (objects : List Sighting) (metadata : ListMeta)
  /-- It asks for what happens after a version. -/
  | follow (version : String)
  deriving DecidableEq, Repr

/-- How a turn ends. -/
inductive TurnEnd where
  /-- There is a request to make. -/
  | waiting
  /-- There is reason to look at a cluster. -/
  | told
  | failed
  /-- The watch is open, and says nothing. -/
  | opened
  deriving DecidableEq, Repr

/-- The watching of a kind. -/
structure Watch where
  kind : ResourceKind
  stage : WatchStage
  /-- The clusters that the list has had so far, by their keys. -/
  clusters : Dict Cluster
  deriving DecidableEq, Repr

namespace Watch

/-- The kinds of objects that are watched. -/
def kinds : List ResourceKind := [.cluster, .statefulSet, .cronJob]

/-- The target that lists a kind, or where its list goes on. -/
def listTarget (k : ResourceKind) (ns next : Option String) : String :=
  k.path ns ++ Text.formQuery (("limit", "500") :: (next.map ("continue", ·)).toList)

/-- The target that tells of what happens to a kind after a version of its collection. -/
def followTarget (k : ResourceKind) (ns : Option String) (version : String) : String :=
  k.path ns ++ Text.formQuery [("watch", "true"), ("timeoutSeconds", "290"), ("allowWatchBookmarks", "true"),
    ("resourceVersion", version)]

/-- Whether a target is a collection, asked for with a parameter. -/
def isAskedFor (parameter target : String) : Bool :=
  Script.isCollection target && (Selector.splitAll '&' target.toList).contains parameter.toList

/-- Whether a request is for a watch. -/
def isFollowing (r : Request) : Bool := r.method = .get && isAskedFor "watch=true" r.target

/-- Whether a request belongs to the watching of a kind. -/
def isWatching (r : Request) : Bool := isFollowing r || (r.method = .get && isAskedFor "limit=500" r.target)

/-- The watching of a kind before anything was asked. -/
def initial (k : ResourceKind) : Watch := ⟨k, .begin, .empty⟩

/-- A watch that begins anew. -/
def restarted (w : Watch) : Watch := { w with stage := .begin }

/-- The value of a member that is not empty. -/
def given (member : Option String) : Option String := member.filter (!·.isEmpty)

/-- What comes after a page: more of the list, or what happens after its version. -/
def afterPage (metadata : ListMeta) : WatchStage :=
  match given metadata.next, given metadata.resourceVersion with
  | none, some version => .follow version
  | next, _ => .list next

/-- Go through a page up to an object that gives reason to look at a cluster. -/
def goThrough (metadata : ListMeta) (w : Watch) : List Sighting → Except Breakdown (TurnEnd × Watch)
  | [] => .ok (.waiting, { w with stage := afterPage metadata })
  | object :: rest =>
    if object.metadata.name.isNone then .error .nameless
    else
      let w := { w with clusters := object.keepIn w.clusters }
      if object.concernsCluster then .ok (.told, { w with stage := .page rest metadata })
      else goThrough metadata w rest

/-- Take up what a list says, or fail to. A list has to say its version or how it goes on. -/
def takeUp (w : Watch) : Except Error (Listing Sighting) → Except Breakdown (TurnEnd × Watch)
  | .ok ⟨objects, metadata⟩ =>
    if (given metadata.next <|> given metadata.resourceVersion).isNone then .ok (.failed, w.restarted)
    else w.goThrough metadata objects
  | .error _ => .ok (.failed, w.restarted)

/-- Have a turn at a scripted server, in one namespace or in all of them. -/
def turn (ns : Option String) (w : Watch) (s : Site) : Except Breakdown ((TurnEnd × Watch) × Site) :=
  match w.stage with
  | .begin => .ok ((.waiting, { w with stage := .list none, clusters := .empty }), s)
  | .page objects metadata => (w.goThrough metadata objects).map (·, s)
  | .list next =>
    match Request.build .get (listTarget w.kind ns next) none with
    | .ok r =>
      let (reply, s) := s.serve r
      (w.takeUp (reply.value (listing (Sighting.decoder w.kind)))).map (·, s)
    | .error _ => .ok ((.failed, w.restarted), s)
  | .follow version =>
    match Request.build .get (followTarget w.kind ns version) none with
    | .ok r => .ok (if isFollowing r then ((.opened, w), s.note r) else ((.failed, w), (s.serve r).2))
    | .error _ => .ok ((.failed, w), s)

/-- The clusters that there are, once their list is complete. -/
def found (w : Watch) : Option (List Cluster) :=
  match w.kind, w.stage with
  | .cluster, .follow _ => some w.clusters.values
  | _, _ => none

end Watch

/-- What watching has come to. -/
structure Watching where
  /-- What is watched, in the order of the turns. -/
  queue : List Watch
  /-- How many failures there were since there was the last reason to look at a cluster. -/
  failures : UInt32
  /-- The clusters that there are, and since when they are known. -/
  found : Option (Duration × List Cluster)

namespace Watching

/-- The beginning of watching. -/
def initial : Watching := ⟨Watch.kinds.map Watch.initial, 0, none⟩

/-- Let the kinds have their turns until a point of time. A turn takes the least time that there is. -/
def runUntil (ns : Option String) (deadline : Duration) (w : Watching) (s : Site) : Except Breakdown (Watching × Site) :=
  if _h : s.elapsed < deadline then
    match w.queue with
    | [] => .ok (w, s)
    | first :: rest =>
      match first.turn ns s with
      | .error b => .error b
      | .ok ((ending, next), after) =>
        let found := w.found <|> next.found.map (s.elapsed, ·)
        let time := { after with elapsed := s.elapsed }
        match ending with
        | .opened => runUntil ns deadline ⟨rest, w.failures, found⟩ (time.passTo 0)
        | .waiting => runUntil ns deadline ⟨rest ++ [next], w.failures, found⟩ (time.passTo 0)
        | .told => runUntil ns deadline ⟨rest ++ [next], 0, found⟩ (time.passTo 0)
        | .failed =>
          runUntil ns deadline ⟨rest ++ [next], w.failures + 1, found⟩
            (time.passTo (s.elapsed + Backoff.betweenLists.delay (0.5 : Float) w.failures))
  else .ok (w, s)
termination_by deadline - s.elapsed
decreasing_by
  all_goals exact Nat.sub_lt_sub_left _h (Site.elapsed_lt_passTo { after with elapsed := s.elapsed } _)

end Watching

end GaleraOperator
