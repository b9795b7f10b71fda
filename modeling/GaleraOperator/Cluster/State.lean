import GaleraOperator.Json.Decode

/-!
# States of a cluster and of its tiers

The states form a chain from best to worst, and the state of a whole is the worst state of its parts. `rank_join`
says that joining takes the greater rank, which is all that the order of the parts could matter for.
-/

namespace GaleraOperator

open Json

/-- The state of a tier of a cluster, and of the cluster as a whole. -/
inductive ClusterState where
  | initializing
  | ready
  | error
  | stopping
  | paused
  deriving DecidableEq, Repr

namespace ClusterState

instance : Inhabited ClusterState := ⟨.initializing⟩

/-- The place of a state in the chain; the worse state has the greater one. -/
def rank : ClusterState → Nat
  | .ready => 0
  | .initializing => 1
  | .paused => 2
  | .stopping => 3
  | .error => 4

/-- The worse of two states. -/
def join (s t : ClusterState) : ClusterState := if s.rank < t.rank then t else s

/-- How a state is written. -/
def text : ClusterState → String
  | .initializing => "initializing"
  | .ready => "ready"
  | .error => "error"
  | .stopping => "stopping"
  | .paused => "paused"

/-- The states in the order in which they are listed to users. -/
def all : List ClusterState := [.initializing, .ready, .error, .stopping, .paused]

/-- The decoder of states. -/
def decoder : Decoder ClusterState := .variant (all.map fun s ↦ (s.text, s))

/-- A state as a document. -/
def toJson (s : ClusterState) : Json := .string s.text

/-- States of the same rank are the same. -/
theorem rank_inj {s t : ClusterState} : s.rank = t.rank ↔ s = t := by
  cases s <;> cases t <;> decide

/-- Joining takes the greater rank. -/
@[simp] theorem rank_join (s t : ClusterState) : (s.join t).rank = max s.rank t.rank := by
  cases s <;> cases t <;> rfl

/-- A state that was written is read back. -/
theorem ofJson_toJson (s : ClusterState) : decoder.ofJson s.toJson = some s := by
  cases s <;> rfl

end ClusterState

end GaleraOperator
