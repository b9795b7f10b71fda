/-!
# Electing a leader

Of the pods of a crashed cluster the one with the latest transaction starts the new one. Among equals it is the pod
with the lowest ordinal.
-/

namespace GaleraOperator

/-- What a crashed pod says of itself. -/
structure Signature where
  pod : String
  ordinal : Int
  seqno : Int
  deriving DecidableEq, Repr

namespace Signature

/-- Whether a pod stays elected when another one turns up. -/
def staysBefore (elected other : Signature) : Bool :=
  other.seqno < elected.seqno || (elected.seqno = other.seqno && elected.ordinal ≤ other.ordinal)

/-- The pod to start a new cluster from. -/
def leader? (signatures : List Signature) : Option Signature :=
  signatures.foldl (fun elected other ↦
    match elected with
    | some e => if e.staysBefore other then some e else some other
    | none => some other) none

end Signature

end GaleraOperator
