import GaleraOperator.Cluster.State

/-!
# What is known of a cluster

The status that the operator writes: every tier as it was last observed, the state of the whole, the problems of the
last pass, and a history of the states that the cluster went through.
-/

namespace GaleraOperator

open Json

/-- What is known of one tier. -/
structure TierStatus where
  size : Int32
  ready : Int32
  state : ClusterState
  message : String
  deriving DecidableEq, Repr

/-- A string that is left out when it is empty. -/
def nonEmptyText (s : String) : Option Json := if s.isEmpty then none else some (.string s)

namespace TierStatus

/-- The decoder of what is known of tiers. -/
def decoder : Decoder TierStatus := Fields.strict "ComponentStatus" <|
  mk <$> Fields.defaulted "size" 0 .int32
    <*> Fields.defaulted "ready" 0 .int32
    <*> Fields.defaulted "state" .initializing ClusterState.decoder
    <*> Fields.defaulted "message" "" .text

/-- What is known of a tier, as a document. -/
def toJson (s : TierStatus) : Json :=
  .ofFields [
    ("size", some (.int s.size.toInt)),
    ("ready", some (.int s.ready.toInt)),
    ("state", some s.state.toJson),
    ("message", nonEmptyText s.message)]

end TierStatus

/-- An entry of the history: a state that the cluster came into. -/
structure StateChange where
  state : ClusterState
  status : String
  reason : String
  message : String
  /-- When the cluster came into the state. -/
  time : String
  deriving DecidableEq, Repr

namespace StateChange

/-- The decoder of entries of the history. -/
def decoder : Decoder StateChange := Fields.strict "ClusterCondition" <|
  mk <$> Fields.required "type" ClusterState.decoder
    <*> Fields.required "status" .text
    <*> Fields.defaulted "reason" "" .text
    <*> Fields.defaulted "message" "" .text
    <*> Fields.required "lastTransitionTime" .text

/-- An entry of the history as a document. -/
def toJson (c : StateChange) : Json :=
  .ofFields [
    ("type", some c.state.toJson),
    ("status", some (.string c.status)),
    ("reason", nonEmptyText c.reason),
    ("message", nonEmptyText c.message),
    ("lastTransitionTime", some (.string c.time))]

end StateChange

/-- What is known of a cluster. -/
structure ClusterStatus where
  database : Option TierStatus
  haproxy : Option TierStatus
  proxysql : Option TierStatus
  state : ClusterState
  host : Option String
  messages : List String
  /-- The states that the cluster came into, the latest last. -/
  history : List StateChange
  observedGeneration : Option Int64
  deriving DecidableEq, Repr

namespace ClusterStatus

/-- The status of a cluster that was never looked at. -/
def initial : ClusterStatus :=
  { database := none, haproxy := none, proxysql := none, state := .initializing, host := none, messages := [],
    history := [], observedGeneration := none }

instance : Inhabited ClusterStatus := ⟨initial⟩

/-- The decoder of what is known of clusters. -/
def decoder : Decoder ClusterStatus := Fields.strict "XtraDBClusterStatus" <|
  mk <$> Fields.optional "pxc" TierStatus.decoder
    <*> Fields.optional "haproxy" TierStatus.decoder
    <*> Fields.optional "proxysql" TierStatus.decoder
    <*> Fields.defaulted "state" .initializing ClusterState.decoder
    <*> Fields.optional "host" .text
    <*> Fields.defaulted "messages" [] (.list .text)
    <*> Fields.defaulted "conditions" [] (.list StateChange.decoder)
    <*> Fields.optional "observedGeneration" .int64

/-- A list that is left out when it is empty. -/
def nonEmptyList (items : List Json) : Option Json := if items.isEmpty then none else some (.array items)

/-- What is known of a cluster, as a document. -/
def toJson (s : ClusterStatus) : Json :=
  .ofFields [
    ("pxc", s.database.map TierStatus.toJson),
    ("haproxy", s.haproxy.map TierStatus.toJson),
    ("proxysql", s.proxysql.map TierStatus.toJson),
    ("state", some s.state.toJson),
    ("host", s.host.map .string),
    ("messages", nonEmptyList (s.messages.map .string)),
    ("conditions", nonEmptyList (s.history.map StateChange.toJson)),
    ("observedGeneration", s.observedGeneration.map fun n ↦ .int n.toInt)]

end ClusterStatus

end GaleraOperator
