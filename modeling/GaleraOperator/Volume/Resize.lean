import GaleraOperator.Cluster.Basic
import GaleraOperator.Kube.Claim
import GaleraOperator.Kube.Event
import GaleraOperator.Quantity

/-!
# How far a resize has come

That volumes are being resized is noted on the cluster, with the time when it was started. How far each claim has come
is told by its capacity, its conditions and the events since then.
-/

namespace GaleraOperator

open Kube

/-- How far the resize of a cluster's volumes has come. -/
inductive ResizeState where
  | notStarted
  | inProgress (since : Instant)
  | failed (reason : String)
  deriving DecidableEq, Repr

/-- How far a claim has come. -/
inductive ClaimProgress where
  | done
  | inProgress
  | failed (note : String)
  /-- Nothing tells either way. -/
  | pending
  deriving DecidableEq, Repr

namespace ClaimProgress

/-- Why a claim failed, told of the claim by name. -/
def failure? (claim : String × ClaimProgress) : Option String :=
  match claim.2 with
  | .failed note => some (claim.1 ++ ": " ++ note)
  | _ => none

/-- How far a claim has come after the given events, from how far it had come before them. A failure is final. -/
def scan : ClaimProgress → List Event → ClaimProgress
  | progress, [] => progress
  | progress, event :: rest =>
    if event.reason = some "VolumeResizeFailed" then .failed (event.note.getD "")
    else if event.reason.any ["Resizing", "ExternalExpanding", "FileSystemResizeRequired"].contains then
      scan .inProgress rest
    else scan progress rest

/-- Whether an event belongs to a resize: it is dated, and not from before. -/
def belongs (started : Instant) (event : Event) : Bool := event.time?.any fun t ↦ started ≤ t

end ClaimProgress

/-- The capacity of a claim in bytes, in whole allocation units. -/
def capacityBytes (claim : Claim) : Except Failure (Option Nat) :=
  match claim.capacity? with
  | none => .ok none
  | some quantity => (Quantity.alignedBytes quantity).map some

/-- How far a claim has come towards the requested bytes. -/
def claimProgress (claim : Claim) (requested : Nat) (events : List Event) (started : Instant) :
    Except Failure ClaimProgress :=
  (capacityBytes claim).map fun capacity ↦
    if capacity = some requested then .done
    else
      ClaimProgress.scan (if claim.isResizing then .inProgress else .pending)
        (events.filter (ClaimProgress.belongs started))

namespace ResizeState

/-- How far a resize has come by what is noted on the cluster. -/
def ofCluster (c : Cluster) : Except Error ResizeState :=
  match c.resizeMark? with
  | none => .ok .notStarted
  | some text =>
    match Instant.ofRfc3339 text with
    | .ok t => .ok (.inProgress t)
    | .error fault => .error (.resizeMark text fault)

/-- How far a resize has come given how far its claims have. As long as one of them moves, failures have to wait. -/
def advance (s : ResizeState) (claims : List (String × ClaimProgress)) : ResizeState :=
  if claims.any (·.2 = .inProgress) then s
  else
    match claims.filterMap ClaimProgress.failure? with
    | [] => s
    | failures => .failed (String.intercalate "; " failures)

end ResizeState

end GaleraOperator
