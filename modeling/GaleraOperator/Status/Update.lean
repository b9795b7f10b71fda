import GaleraOperator.Cluster.Status
import GaleraOperator.Instant.Printer

/-!
# Updates of the status

What a pass found out is put onto the status as it is stored then. An observation replaces what was known; a failure
leaves it and only notes the error, once. The history has an entry for every state that the cluster came into, and
only so many of them.
-/

namespace GaleraOperator

/-- The most entries of a history. -/
def maxHistory : Nat := 20

/-- Add an entry to a history unless the cluster is in that state already; the oldest entries give way. -/
def recordChange (history : List StateChange) (change : StateChange) : List StateChange :=
  if (history.getLast?.map (·.state)) = some change.state then history
  else
    let grown := history ++ [change]
    grown.drop (grown.length - maxHistory)

/-- What a pass found out about a cluster. -/
structure ClusterObservation where
  database : TierStatus
  haproxy : Option TierStatus
  proxysql : Option TierStatus
  state : ClusterState
  host : String
  messages : List String
  observedGeneration : Option Int64
  deriving DecidableEq, Repr

/-- What a pass has to say about a cluster. -/
inductive StatusUpdate where
  | failed (message : String)
  | observed (o : ClusterObservation)
  deriving DecidableEq, Repr

namespace StatusUpdate

/-- Say something more; what only tells of a failure says nothing else. -/
def addMessage (text : String) : StatusUpdate → StatusUpdate
  | .failed message => .failed message
  | .observed o => .observed { o with messages := o.messages ++ [text] }

/-- The state that the cluster comes into. -/
def state : StatusUpdate → ClusterState
  | .failed _ => .error
  | .observed o => o.state

/-- The entry of the history for an update. -/
def change (u : StatusUpdate) (now : Instant) : StateChange where
  state := u.state
  status := "True"
  reason := match u with | .failed _ => "ErrorReconcile" | .observed _ => ""
  message := match u with | .failed message => message | .observed _ => ""
  time := now.toRfc3339

/-- How an error is told in the messages. -/
def errorMessage (text : String) : String := "Error: " ++ text

/-- The status after an update. -/
def apply (u : StatusUpdate) (now : Instant) (s : ClusterStatus) : ClusterStatus :=
  match u with
  | .failed message =>
    if s.state = .error then s
    else { s with
      state := .error
      messages := s.messages ++ [errorMessage message]
      history := recordChange s.history (u.change now) }
  | .observed o =>
    { database := some o.database
      haproxy := o.haproxy
      proxysql := o.proxysql
      state := o.state
      host := some o.host
      messages := o.messages
      history := recordChange s.history (u.change now)
      observedGeneration := o.observedGeneration }

/-- A failure leaves a status alone that is in the state of an error. -/
theorem apply_failed_of_error {message : String} {s : ClusterStatus} (now : Instant) (h : s.state = .error) :
    (failed message).apply now s = s := if_pos h

/-- A failure is noted behind the messages of any other status. -/
theorem messages_apply_failed {message : String} {s : ClusterStatus} (now : Instant) (h : s.state ≠ .error) :
    ((failed message).apply now s).messages = s.messages ++ [errorMessage message] := by
  rw [apply, if_neg h]

/-- An update brings the status into its own state. -/
theorem state_apply (u : StatusUpdate) (now : Instant) (s : ClusterStatus) : (u.apply now s).state = u.state := by
  cases u with
  | failed message =>
    by_cases h : s.state = .error
    · rw [apply_failed_of_error now h]
      exact h
    · rw [apply, if_neg h]
      rfl
  | observed o => rfl

/-- Whether there is something to write. -/
def needsWrite (u : StatusUpdate) (now : Instant) (s : ClusterStatus) : Bool :=
  match u with
  | .failed _ => s.state ≠ .error
  | .observed _ => u.apply now s ≠ s

end StatusUpdate

end GaleraOperator
