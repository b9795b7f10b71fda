import GaleraOperator.Control.Reconcile
import GaleraOperator.Control.Watch

/-!
# The operator at work

As soon as the operator knows the clusters that there are, it makes passes over each of them, one after the other: the
first at once, and the next one when the one before has ended and its delay is over. Here it works at a scripted server
that tells of no changes, for a span of time.
-/

namespace GaleraOperator

open Http

/-- What came of the operator's work. -/
structure WorkReport where
  /-- Whether the operator says that it is ready, if it has a health. -/
  ready : Option Bool
  /-- The targets of what is watched, in order. -/
  watches : List String
  /-- All other requests, in the order in which they were made. -/
  requests : List Request
  deriving DecidableEq, Repr

/-- A pass, and how long after it the next one is to be made, if one is. -/
def passAndDelay (settings : Settings) (c : Cluster) : Pass Memory (Option Duration) := do
  match ← Pass.attempt (reconcile settings c) with
  | .ok (.after d) => return some d
  | .ok .onChange => return none
  | .error e => return some (retryDelay (0.5 : Float) e (← afterFailure c))

/-- Make passes over a cluster until a point of time. -/
def makePasses (settings : Settings) (c : Cluster) (deadline : Duration) (memory : Memory) (s : Site) :
    Except Breakdown Site :=
  if _h : s.elapsed < deadline then
    let ((result, memory), s') := (passAndDelay settings c).runIn Site.surroundings memory s
    match result with
    | .ok (some delay) =>
      let later := { s' with elapsed := s.elapsed }
      makePasses settings c deadline memory (later.passTo (s'.elapsed + delay))
    | .ok none | .error (.error _) => .ok s'
    | .error (.overflow o) => .error (.overflow o)
  else .ok s
termination_by deadline - s.elapsed
decreasing_by
  exact Nat.sub_lt_sub_left _h (Site.elapsed_lt_passTo { s' with elapsed := s.elapsed } _)

/-- Let the operator work for a span of time. -/
def work (settings : Settings) (script : Script) (clock : Instant) (health : Option Health) (span : Duration) :
    Except Breakdown WorkReport := do
  let start : Site := ⟨script, clock, 0, [], health.map ({ · with ready := true })⟩
  let (watching, watched) ← Watching.initial.runUntil settings.watchNamespace span start
  let (since, clusters) := watching.found.getD (span, [])
  let site ← clusters.foldlM (fun s c ↦ makePasses settings c span .empty { s with elapsed := since }) watched
  let sent := site.sentBefore span
  return {
    ready := site.health.map (·.ready)
    watches := ((sent.filter Watch.isWatching).map (·.target)).mergeSort fun a b ↦ decide (a ≤ b)
    requests := sent.filter (!Watch.isWatching ·) }

end GaleraOperator
