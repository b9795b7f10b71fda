import GaleraOperator.Api.Testbed
import GaleraOperator.Http.Client
import GaleraOperator.Http.Script

/-!
# The scripted server in time

The operator works at a scripted server while time goes by: every request is noted with the time at which it was made,
and only waits take any. The wall clock stands still.
-/

namespace GaleraOperator

open Http

/-- Why the operator stops working for good. -/
inductive Breakdown where
  | overflow (o : Overflow)
  /-- An object in a list has no name. -/
  | nameless
  deriving DecidableEq, Repr

/-- The wording of a breakdown. -/
def Breakdown.message : Breakdown → String
  | .overflow o => o.message
  | .nameless => ".metadata.name missing"

/-- A scripted server, and what has happened at it. -/
structure Site where
  script : Script
  /-- What the wall clock shows all the time. -/
  clock : Instant
  /-- The time since the start. -/
  elapsed : Duration
  /-- The requests that were made and when, the latest first. -/
  sent : List (Duration × Request)
  health : Option Health

namespace Site

/-- Note a request. -/
def note (s : Site) (r : Request) : Site := { s with sent := (s.elapsed, r) :: s.sent }

/-- Reply to a request. -/
def serve (r : Request) (s : Site) : Reply × Site :=
  let (reply, script) := s.script.reply r
  (reply, { s.note r with script })

/-- The site as the surroundings of a pass. -/
def surroundings : Interaction.Surroundings Site
  | .call c, s => c.send serve s
  | .now, s => (s.clock, s)
  | .wait w, s => ((), { s with elapsed := s.elapsed + w.duration (0.5 : Float) })
  | .measure ns name m, s => ((), { s with health := s.health.map (·.record ns name 0 m) })
  | .touch seconds, s => ((), { s with health := s.health.map ({ · with lastPass := seconds }) })

/-- Let time pass until a point of it, but some in any case. -/
def passTo (s : Site) (time : Duration) : Site := { s with elapsed := max time (s.elapsed + 1) }

/-- Some time passes in any case. -/
theorem elapsed_lt_passTo (s : Site) (time : Duration) : s.elapsed < (s.passTo time).elapsed :=
  Nat.lt_of_lt_of_le (Nat.lt_succ_self _) (Nat.le_max_right _ _)

/-- The requests made before a point of time, in order. -/
def sentBefore (s : Site) (deadline : Duration) : List Request :=
  ((s.sent.filter (·.1 < deadline)).map (·.2)).reverse

end Site

end GaleraOperator
