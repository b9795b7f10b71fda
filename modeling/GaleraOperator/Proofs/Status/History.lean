import GaleraOperator.Status.Update
import Mathlib

/-!
# The status after a run of updates

A cluster's status is made by the updates of all its passes, each put onto what the ones before it left. What it says
in the end can be read off the run itself: the last observation tells what is known, the first failure since then is
noted once, and the history is the end of the list of states that the cluster came into.
-/

namespace GaleraOperator

/-- An update of the status and when it is made. -/
structure TimedUpdate where
  time : Instant
  update : StatusUpdate
  deriving DecidableEq, Repr

namespace StatusUpdate

/-- Why the pass failed, if it did. -/
def failure? : StatusUpdate → Option String
  | .failed message => some message
  | .observed _ => none

end StatusUpdate

namespace TimedUpdate

variable (run : List TimedUpdate) (u : TimedUpdate)

/-- The status of a cluster after a run of updates, none of which another writer interferes with. -/
def statusAfter : ClusterStatus :=
  run.foldl (fun status u ↦ u.update.apply u.time status) .initial

section Concat

/-! What one more update does to each of these. -/

end Concat

end TimedUpdate

namespace TimedUpdate

variable (run : List TimedUpdate) (u : TimedUpdate)

end TimedUpdate

section History

/-! Of the list of states a status keeps the end. -/

end History

namespace TimedUpdate

variable (run : List TimedUpdate)

/-- Of two failures in a row only the first one is told. -/
example (time later : Instant) :
    (statusAfter [⟨time, .failed "no quorum"⟩, ⟨later, .failed "timed out"⟩]).messages = ["Error: no quorum"] := by
  rfl

end TimedUpdate

end GaleraOperator
