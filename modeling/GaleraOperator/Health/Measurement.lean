/-!
# Measurements

What is counted about the work of the operator, each for one cluster.
-/

namespace GaleraOperator

/-- Something that happened to a cluster and is counted or shown. -/
inductive Measurement where
  /-- A pass succeeded. -/
  | passed
  /-- A pass failed. -/
  | failed
  /-- A tier wants so many pods, and so many are ready. -/
  | pods (tier : String) (desired ready : Int)
  /-- The recovery of a crashed cluster was started. -/
  | recovered
  /-- Expired backups were deleted. -/
  | pruned (count : Nat)
  /-- A resize of the volumes came to a point. -/
  | resized (outcome : String)
  deriving DecidableEq, Repr

end GaleraOperator
