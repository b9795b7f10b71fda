import GaleraOperator.Recovery.Basic
import GaleraOperator.Status.Update

/-!
# Observing a cluster

The tiers that the owner asks for are looked at one after the other, and what is learned becomes one update of the
status. A pod of the database counts as ready only if it does not wait for a recovery and runs the latest revision.
-/

namespace GaleraOperator

open Kube Pass

variable {σ : Type}

namespace Tier

/-- Whether a pod whose containers are ready counts as ready. -/
def passesChecks (t : Tier) (ns : String) (updateRevision : Option String) (pod : Pod) : Pass σ Bool := do
  if t.isDatabase then
    let waiting ← Recovery.isWaiting ns pod.name
    return !waiting && onUpdateRevision pod updateRevision
  else return true

/-- Look at a pod. -/
def observePod (t : Tier) (ns : String) (updateRevision : Option String) (pod : Pod) :
    Pass σ PodObservation := do
  let ready ← if pod.containersReady then t.passesChecks ns updateRevision pod else pure false
  return {
    name := pod.name
    running := pod.isRunning
    ready := ready
    waiting := if pod.containersReady then [] else pod.waitingMessages
    unschedulable := pod.unschedulable? }

/-- Look at the pods of a tier. -/
def observe (t : Tier) (ns : String) (c : Cluster) (paused : Bool) : Pass σ TierObservation := do
  let pods ← call (.listPods ns (c.tierLabels t).selector)
  let set ← call (.getStatefulSet ns (c.tierSet t))
  let observed ← pods.mapM (t.observePod ns (set.bind (·.updateRevision?)))
  return {
    size := c.sizeOf t
    paused := paused
    pods := observed
    upgrading := set.any (·.rolloutInProgress) }

/-- Look at the pods of a tier, if the owner asks for it. -/
def observeIfPresent (t : Tier) (ns : String) (c : Cluster) : Pass σ (Option TierObservation) := do
  if c.hasTier t then return some (← t.observe ns c c.spec.paused) else return none

/-- The name under which a tier is reached. -/
def host (t : Tier) (ns : String) (c : Cluster) : String := c.tierSet t ++ "." ++ ns

/-- What there is to say about a tier. -/
def notes (t : Tier) (status : TierStatus) : List String :=
  if status.message.isEmpty then [] else [t.displayName ++ ": " ++ status.message]

end Tier

/-- What was learned about the tiers of a cluster. -/
structure TierObservations where
  database : TierObservation
  haproxy : Option TierObservation
  proxysql : Option TierObservation
  deriving DecidableEq, Repr

namespace TierObservations

/-- The tiers that were looked at. -/
def toList (o : TierObservations) : List (Tier × TierObservation) :=
  (.database, o.database) ::
    ((o.haproxy.map (Tier.haproxy, ·)).toList ++ (o.proxysql.map (Tier.proxysql, ·)).toList)

/-- What is to be told about a cluster. Clients reach it by the last of its tiers. -/
def summary (o : TierObservations) (ns : String) (c : Cluster) (now : Instant) : ClusterObservation :=
  let tiers : List (Tier × TierStatus) := o.toList.map fun (t, observed) ↦ (t, observed.evaluate now)
  { database := o.database.evaluate now
    haproxy := o.haproxy.map (·.evaluate now)
    proxysql := o.proxysql.map (·.evaluate now)
    state := overallState (tiers.map (·.2.state)) (o.toList.any (·.2.upgrading))
    host := ((tiers.getLast?.map Prod.fst).getD .database).host ns c
    messages := tiers.flatMap fun (t, status) ↦ t.notes status
    observedGeneration := c.metadata.generation }

end TierObservations

/-- Look at a cluster: what is to be told about it, and what was learned about the pods of the database. -/
def aggregate (c : Cluster) : Pass σ (StatusUpdate × List PodObservation) := do
  let some ns := c.metadata.ns? | fail .missingNamespace
  let time ← now
  let database ← Tier.database.observe ns c c.spec.paused
  let haproxy ← Tier.haproxy.observeIfPresent ns c
  let proxysql ← Tier.proxysql.observeIfPresent ns c
  let observations : TierObservations := ⟨database, haproxy, proxysql⟩
  return (.observed (observations.summary ns c time), database.pods)

end GaleraOperator
