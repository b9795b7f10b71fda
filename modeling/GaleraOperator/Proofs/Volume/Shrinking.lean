import GaleraOperator.Proofs.Quantity
import GaleraOperator.Proofs.Volume.Transition

/-!
# Which claims are asked for less than they have

A resize is refused if the requested bytes are less than the least capacity, and started if they are more. Every claim
of a pod whose capacity is another one is then asked for the requested bytes: those that have less, and also those that
have more. So a resize to an amount between the least capacity and a greater one asks claims to shrink.
-/

namespace GaleraOperator

open Kube Pass

/-- Whether a claim asks for less than it has, in whole allocation units. -/
def Kube.Claim.IsShrunk (claim : Claim) : Prop :=
  ∃ request asked capacity, claim.request? = some request ∧ Quantity.bytes request = .ok asked ∧
    capacityBytes claim = .ok (some capacity) ∧ asked < capacity

namespace Volume

variable {σ : Type} {m m' : σ} {es : List Exchange} {s t : Store} {ns : String} {c held : Cluster}
  {settings : Settings} {configured reason : String} {requested actual : Nat} {claims : List Claim} {P : Call → Prop}

/-- The capacity of a claim exceeds the requested bytes. -/
def Exceeds (requested : Nat) (claim : Claim) : Prop :=
  ∃ capacity, capacityBytes claim = .ok (some capacity) ∧ requested < capacity

/-- A claim that is asked for the requested bytes is asked to shrink exactly if it has more. -/
theorem isShrunk_withRequest {claim : Claim} {target : String} (htarget : Quantity.ofBytes requested = .ok target)
    (haligned : Quantity.alignedTo requested = requested) :
    (claim.withRequest target).IsShrunk ↔ Exceeds requested claim := by
  have hrequest : (claim.withRequest target).request? = some target := (claim.isAsked_withRequest target).storage
  have hcapacity : capacityBytes (claim.withRequest target) = capacityBytes claim := rfl
  have hbytes : Quantity.bytes target = .ok requested := by
    rw [Quantity.bytes_of_ofBytes htarget, haligned]
  constructor
  · rintro ⟨request, asked, capacity, hsome, hasked, hknown, hlt⟩
    rw [hrequest] at hsome
    cases hsome
    rw [hbytes] at hasked
    cases hasked
    rw [hcapacity] at hknown
    exact ⟨capacity, hknown, hlt⟩
  · rintro ⟨capacity, hknown, hlt⟩
    exact ⟨target, requested, capacity, hrequest, hbytes, hcapacity ▸ hknown, hlt⟩

section Asks

variable (hcluster : ∀ call, IsClusterCall ns c.name call → P call)

include hcluster

theorem asks_rollBack {α : Type} : Asks P (rollBack settings ns c configured reason : Pass σ α) := by
  refine Asks.bind (Asks.aside fun _ ↦ rfl) fun _ ↦ ?_
  refine Asks.bind (asks_changeCluster hcluster) fun _ ↦ ?_
  exact Asks.bind (asks_changeCluster hcluster) fun _ ↦ Asks.fail _

theorem asks_growClaim {claim : Claim}
    (hasks : ∀ target, Quantity.ofBytes requested = .ok target → P (.replaceClaim ns (claim.withRequest target))) :
    Asks P (growClaim settings ns c configured requested claim : Pass σ Bool) := by
  refine Asks.orFail_bind fun capacity _ ↦ ?_
  split
  · exact Asks.pure false
  · refine Asks.orOverflow_bind fun target htarget ↦ ?_
    refine Asks.bind (Asks.attempt (Asks.call (hasks target htarget))) fun reply ↦ ?_
    cases reply with
    | ok answer => exact Asks.pure true
    | error e =>
      simp only
      split
      · exact asks_rollBack hcluster
      · exact Asks.fail e

theorem asks_start
    (hasks : ∀ claim ∈ claims, ∀ target, Quantity.ofBytes requested = .ok target →
      P (.replaceClaim ns (claim.withRequest target))) :
    Asks P (start settings ns c claims configured requested : Pass σ ResizeOutcome) := by
  refine Asks.bind (Asks.aside fun _ ↦ rfl) fun time ↦ ?_
  refine Asks.bind (asks_changeCluster hcluster) fun _ ↦ ?_
  refine Asks.bind (Asks.mapM_of_mem fun claim hmem ↦ asks_growClaim hcluster (hasks claim hmem)) fun asked ↦ ?_
  exact Asks.bind (Asks.aside fun _ ↦ rfl) fun _ ↦ Asks.pure _

theorem asks_followUp {started : Instant} (hevents : ∀ object, P (.listEvents ns object))
    (hset : ∀ name, P (.orphanStatefulSet ns name)) :
    Asks P (followUp settings ns c claims configured requested started : Pass σ ResizeOutcome) := by
  have hclaim : ∀ claim ∈ claims,
      Asks P (observeClaim ns requested started claim : Pass σ (String × ClaimProgress)) := by
    intro claim _
    refine Asks.bind (Asks.call (hevents _)) fun events ↦ ?_
    exact Asks.orFail_bind fun progress _ ↦ Asks.pure _
  refine Asks.bind (Asks.mapM_of_mem hclaim) fun progress ↦ ?_
  split
  · exact asks_rollBack hcluster
  · split
    · refine Asks.bind (Asks.call (hset _)) fun _ ↦ ?_
      refine Asks.bind (asks_changeCluster hcluster) fun _ ↦ ?_
      exact Asks.bind (Asks.aside fun _ ↦ rfl) fun _ ↦ Asks.pure _
    · exact Asks.pure _

theorem asks_refuseShrink :
    Asks P (refuseShrink settings ns c configured requested actual : Pass σ ResizeOutcome) := by
  refine Asks.bind (asks_changeCluster hcluster) fun _ ↦ ?_
  refine Asks.orOverflow_bind fun requestedText _ ↦ ?_
  exact Asks.orOverflow_bind fun actualText _ ↦ Asks.fail _

end Asks

/-- What a pass may ask of claims, when the least capacity is known: those in use are asked for the requested bytes,
which are more than the least capacity. -/
def IsRequest (ns : String) (c : Cluster) (claims : List Claim) (actual : Nat) (call : Call) : Prop :=
  ∀ ns' new, call = .replaceClaim ns' new → ns' = ns ∧ ∃ claim ∈ claims, ∃ requested target,
    Quantity.alignedBytes c.requestedStorage = .ok requested ∧ actual < requested ∧
      Quantity.ofBytes requested = .ok target ∧ new = claim.withRequest target

theorem asks_decideOn :
    Asks (IsRequest ns c claims actual) (decideOn settings ns c claims actual configured : Pass σ ResizeOutcome) := by
  have hcluster : ∀ call, IsClusterCall ns c.name call → IsRequest ns c claims actual call := by
    intro call hcall ns' new hnew
    rcases hcall with hcall | ⟨other, hcall⟩ <;> cases hcall.symm.trans hnew
  refine Asks.orFail_bind fun configuredBytes _ ↦ ?_
  refine Asks.orFail_bind fun requested hrequested ↦ ?_
  split
  · exact Asks.fail _
  · exact asks_followUp hcluster (fun _ _ _ hnew ↦ by cases hnew) (fun _ _ _ hnew ↦ by cases hnew)
  · by_cases hlt : requested < actual
    · rw [if_pos hlt]
      exact asks_refuseShrink hcluster
    · rw [if_neg hlt]
      by_cases hequal : (requested = configuredBytes || requested = actual) = true
      · rw [if_pos hequal]
        exact Asks.pure _
      · rw [if_neg hequal]
        apply asks_start hcluster
        intro claim hmem target htarget ns' new hnew
        have hne : requested ≠ actual := by
          intro heq
          exact hequal (by simp [heq])
        cases hnew
        exact ⟨rfl, claim, hmem, requested, target, hrequested, by omega, htarget, rfl⟩

/-- The same of a pass that has the volumes of a server to decide about. -/
def MayAsk (s : Store) (ns : String) (c : Cluster) (call : Call) : Prop :=
  ∀ ns' new, call = .replaceClaim ns' new → ∃ actual, leastCapacity (dataClaims s ns c) = .ok (some actual) ∧
    IsRequest ns c (usedClaims s ns c) actual call

/-- A pass asks claims only for more than the least capacity that it has found. -/
theorem mayAsk_of_runs {r : Except Failure ResizeOutcome} (h : (reconcile settings c).Runs m es r m')
    (hs : s.Serves es t) (hns : c.metadata.ns? = some ns) : ∀ call ∈ calls es, MayAsk s ns c call := by
  have hread : ∀ fs, Reads fs → ∀ call ∈ calls fs, MayAsk s ns c call := by
    intro fs hreads call hcall ns' new hnew
    rw [hnew] at hcall
    exact absurd hcall (not_replaceClaim_of_reads hreads new)
  rcases runs_reconcile_decideOn h hs hns with
    ⟨-, -, hreads, -⟩ | ⟨first, rest, actual, configured, rfl, hreads, hfinds, -, hdecide⟩
  · exact hread es hreads
  · intro call hcall
    rcases mem_calls_append.1 hcall with hcall | hcall
    · exact hread first hreads call hcall
    · intro ns' new _
      exact ⟨actual, hfinds.least, asks_decideOn _ _ _ _ hdecide call hcall⟩

/-- A claim that is asked for anything is asked for the requested bytes, which are more than the least capacity. So it
is shrunk exactly if its own capacity is still more. -/
theorem isShrunk_of_asked {r : Except Failure ResizeOutcome} (h : (reconcile settings c).Runs m es r m')
    (hs : s.Serves es t) (hns : c.metadata.ns? = some ns) {ns' : String} {new : Claim}
    (hnew : .replaceClaim ns' new ∈ calls es) :
    ns' = ns ∧ ∃ claim ∈ usedClaims s ns c, ∃ actual requested target,
      leastCapacity (dataClaims s ns c) = .ok (some actual) ∧ actual < requested ∧
      Quantity.alignedBytes c.requestedStorage = .ok requested ∧ Quantity.bytes target = .ok requested ∧
      new = claim.withRequest target ∧ (new.IsShrunk ↔ Exceeds requested claim) := by
  obtain ⟨actual, hleast, hrequest⟩ := mayAsk_of_runs h hs hns _ hnew ns' new rfl
  obtain ⟨hns', claim, hmem, requested, target, hrequested, hlt, htarget, rfl⟩ := hrequest ns' new rfl
  have haligned := Quantity.alignedTo_of_alignedBytes hrequested
  have hbytes : Quantity.bytes target = .ok requested := by
    rw [Quantity.bytes_of_ofBytes htarget, haligned]
  exact ⟨hns', claim, hmem, actual, requested, target, hleast, hlt, hrequested, hbytes, rfl,
    isShrunk_withRequest htarget haligned⟩

/-- If a resize is started and a claim in use has more than the requested bytes, that claim is shrunk. -/
theorem isShrunk_of_exceeds {asked : Nat} {claim : Claim}
    (h : (reconcile settings c).Runs m es (.ok (.started asked)) m') (hs : s.Serves es t)
    (hns : c.metadata.ns? = some ns) (hheld : s.clusters.find? ns c.name = some held)
    (hrequested : Quantity.alignedBytes c.requestedStorage = .ok requested) (hmem : claim ∈ usedClaims s ns c)
    (hexceeds : Exceeds requested claim) : ∃ new, .replaceClaim ns new ∈ calls es ∧ new.IsShrunk := by
  obtain ⟨requested', time, target, hrequested', -, hrestarted⟩ := restarted_of_started h hs hns hheld
  cases hrequested.symm.trans hrequested'
  have hlags : claim ∈ lagging requested (usedClaims s ns c) := by
    obtain ⟨capacity, hcapacity, hlt⟩ := hexceeds
    have hne : some capacity ≠ some requested := by
      intro heq
      cases heq
      exact Nat.lt_irrefl _ hlt
    rw [lagging, List.mem_filter, lags_of_capacityBytes requested hcapacity, decide_eq_false hne]
    exact ⟨hmem, rfl⟩
  have haligned := Quantity.alignedTo_of_alignedBytes hrequested
  exact ⟨_, hrestarted.asks claim hlags, (isShrunk_withRequest hrestarted.target_eq haligned).2 hexceeds⟩

/-- Which claims a pass asks for less than they have, whatever the server refuses: of those that it asks, the ones that
have more than the requested bytes. And a pass that starts a resize asks every such claim, so it shrinks none exactly if
no claim in use has more than the requested bytes. -/
theorem shrinks_iff_exceeds {r : Except Failure ResizeOutcome} (h : (reconcile settings c).Runs m es r m')
    (hs : s.Serves es t) (hns : c.metadata.ns? = some ns) (hheld : s.clusters.find? ns c.name = some held) :
    (∀ ns' new, .replaceClaim ns' new ∈ calls es →
      ns' = ns ∧ ∃ claim ∈ usedClaims s ns c, ∃ actual requested target,
        leastCapacity (dataClaims s ns c) = .ok (some actual) ∧ actual < requested ∧
        Quantity.alignedBytes c.requestedStorage = .ok requested ∧ Quantity.bytes target = .ok requested ∧
        new = claim.withRequest target ∧ (new.IsShrunk ↔ Exceeds requested claim)) ∧
    ∀ asked, r = .ok (.started asked) →
      ((∃ ns' new, .replaceClaim ns' new ∈ calls es ∧ new.IsShrunk) ↔
        ∃ requested, Quantity.alignedBytes c.requestedStorage = .ok requested ∧
          ∃ claim ∈ usedClaims s ns c, Exceeds requested claim) := by
  refine ⟨fun ns' new hnew ↦ isShrunk_of_asked h hs hns hnew, ?_⟩
  rintro asked rfl
  constructor
  · rintro ⟨ns', new, hnew, hshrunk⟩
    obtain ⟨-, claim, hmem, -, requested, -, -, -, hrequested, -, -, hiff⟩ := isShrunk_of_asked h hs hns hnew
    exact ⟨requested, hrequested, claim, hmem, hiff.1 hshrunk⟩
  · rintro ⟨requested, hrequested, claim, hmem, hexceeds⟩
    obtain ⟨new, hnew, hshrunk⟩ := isShrunk_of_exceeds h hs hns hheld hrequested hmem hexceeds
    exact ⟨ns, new, hnew, hshrunk⟩

/-- The claim of a second pod, which has more than the owner of the cluster asks for now. -/
def wideClaim : Claim where
  metadata := { growingPod.metadata with name := some "datadir-db-pxc-1" }
  spec := some ⟨some ⟨some (.ofList [("storage", "3Gi")]), []⟩, []⟩
  status := some ⟨some (.ofList [("storage", "3Gi")]), none, []⟩

theorem capacityBytes_wideClaim : capacityBytes wideClaim = .ok (some 3221225472) := rfl

/-- A server that holds the cluster with two pods, and claims of different capacities. -/
def mixedStore : Store :=
  { growingStore with
    pods := [growingPod, { growingPod with metadata.name := some "db-pxc-1" }]
    claims := [growingClaim, wideClaim] }

theorem dataClaims_mixed : dataClaims mixedStore "prod" growing = [growingClaim, wideClaim] := by
  have hclaims : mixedStore.claims.select "prod" (growing.tierLabels .database).selector =
      [growingClaim, wideClaim] := by
    apply Objects.select_eq_self separable_growing
    intro claim hmem
    rcases List.mem_pair.1 hmem with rfl | rfl <;> exact ⟨rfl, rfl⟩
  rw [dataClaims, hclaims]
  rfl

theorem usedClaims_mixed : usedClaims mixedStore "prod" growing = [growingClaim, wideClaim] := by
  have hpods : mixedStore.pods.select "prod" (growing.tierLabels .database).selector = mixedStore.pods := by
    apply Objects.select_eq_self separable_growing
    intro pod hmem
    rcases List.mem_pair.1 hmem with rfl | rfl <;> exact ⟨rfl, rfl⟩
  rw [usedClaims, dataClaims_mixed, podClaimNames, hpods]
  rfl

theorem decides_mixed : Decides mixedStore "prod" growing 1073741824 "1Gi" 1073741824 2147483648 where
  used := by simp [usedClaims_mixed]
  least := by
    rw [dataClaims_mixed]
    decide +kernel
  template := decides_growing.template
  configuredBytes_eq := decides_growing.configuredBytes_eq
  requested_eq := decides_growing.requested_eq

theorem runs_growClaim_ok {claim : Claim} {capacity : Nat} {target : String}
    (hcapacity : capacityBytes claim = .ok (some capacity)) (hne : capacity ≠ requested)
    (htarget : Quantity.ofBytes requested = .ok target) :
    (growClaim settings ns c configured requested claim : Pass σ Bool).Runs m
      [⟨.call (.replaceClaim ns (claim.withRequest target)), .ok (claim.withRequest target)⟩] (.ok true) m := by
  refine runs_orFail_bind.2 (.inr ⟨some capacity, hcapacity, ?_⟩)
  rw [if_neg (by simpa using hne)]
  refine runs_orOverflow_bind.2 (.inr ⟨target, htarget, ?_⟩)
  exact runs_attempt_call_bind.2 ⟨.ok _, [], rfl, runs_pure.2 ⟨rfl, rfl, rfl⟩⟩

/-- The note of the resize and the requests that follow it. -/
private def mixedWrites : List Exchange :=
  [⟨.now, noon⟩, ⟨.call (.getCluster "prod" "db"), .ok (some growing)⟩,
    ⟨.call (.replaceCluster "prod" growingMarked), .ok growingMarked⟩,
    ⟨.call (.replaceClaim "prod" (growingClaim.withRequest "2Gi")), .ok (growingClaim.withRequest "2Gi")⟩,
    ⟨.call (.replaceClaim "prod" (wideClaim.withRequest "2Gi")), .ok (wideClaim.withRequest "2Gi")⟩,
    ⟨.measure "prod" "db" (.resized "started"), ()⟩]

/-- What happens when a pass starts a resize to an amount between the two capacities. -/
theorem runs_reconcile_mixed : ∃ es after,
    (reconcile .standard growing : Pass Unit ResizeOutcome).Runs () es (.ok (.started 2)) () ∧
      mixedStore.Serves es after ∧ .replaceClaim "prod" (wideClaim.withRequest "2Gi") ∈ calls es := by
  have hmark : markStarted noon.toSecondsText growing = some growingMarked := rfl
  have htarget : Quantity.ofBytes 2147483648 = .ok "2Gi" := rfl
  have hless : capacityBytes growingClaim = .ok (some 1073741824) := rfl
  have hfirst : (growClaim .standard "prod" growing "1Gi" 2147483648 growingClaim :
      Pass Unit Bool).Runs () _ (.ok true) () :=
    runs_growClaim_ok hless (by decide) htarget
  have hsecond : (growClaim .standard "prod" growing "1Gi" 2147483648 wideClaim :
      Pass Unit Bool).Runs () _ (.ok true) () :=
    runs_growClaim_ok capacityBytes_wideClaim (by decide) htarget
  have hgrow : ([growingClaim, wideClaim].mapM (growClaim .standard "prod" growing "1Gi" 2147483648) :
      Pass Unit (List Bool)).Runs () ((mixedWrites.drop 3).take 2) (.ok [true, true]) () := by
    refine runs_mapM_cons.2 (.inl ⟨_, _, true, (), .ok [true], rfl, hfirst, ?_, rfl⟩)
    exact runs_mapM_cons.2 (.inl ⟨_, [], true, (), .ok [], rfl, hsecond, runs_mapM_nil.2 ⟨rfl, rfl, rfl⟩, rfl⟩)
  have hstart : (start .standard "prod" growing [growingClaim, wideClaim] "1Gi" 2147483648 :
      Pass Unit ResizeOutcome).Runs () mixedWrites (.ok (.started 2)) () := by
    refine runs_ask_bind.2 ⟨noon, _, rfl, runs_bind.2 (.inl ⟨_, _, (), (), rfl, runs_changeCluster_ok hmark, ?_⟩)⟩
    refine runs_bind.2 (.inl ⟨_, _, [true, true], (), rfl, hgrow, ?_⟩)
    exact runs_ask_bind.2 ⟨(), [], rfl, runs_pure.2 ⟨rfl, rfl, rfl⟩⟩
  have hdecide : (decideOn .standard "prod" growing [growingClaim, wideClaim] 1073741824 "1Gi" :
      Pass Unit ResizeOutcome).Runs () mixedWrites (.ok (.started 2)) () := by
    refine runs_orFail_bind.2 (.inr ⟨1073741824, decides_mixed.configuredBytes_eq, ?_⟩)
    exact runs_orFail_bind.2 (.inr ⟨2147483648, decides_mixed.requested_eq, hstart⟩)
  have hrun := runs_reconcile_of_decides (c := growing) rfl decides_mixed (by rw [usedClaims_mixed]; exact hdecide)
  have hfound : mixedStore.clusters.find? "prod" "db" = some growing := rfl
  obtain ⟨after, hafter⟩ : ∃ after, mixedStore.Serves mixedWrites after :=
    ⟨_, _, rfl, Store.serves_ok.2 ⟨hfound.symm, Store.serves_ok.2 ⟨rfl, Store.serves_ok.2 ⟨rfl,
      Store.serves_ok.2 ⟨rfl, _, rfl, rfl⟩⟩⟩⟩⟩
  refine ⟨_, after, hrun, serves_reading.2 hafter, ?_⟩
  rw [calls_append, List.mem_append]
  exact .inr (by simp [mixedWrites])

/-- A resize between the capacities of two claims asks the wider one to shrink. -/
theorem shrinks_wideClaim : ∃ es after,
    (reconcile .standard growing : Pass Unit ResizeOutcome).Runs () es (.ok (.started 2)) () ∧
      mixedStore.Serves es after ∧
      ∃ new, .replaceClaim "prod" new ∈ calls es ∧ new.metadata = wideClaim.metadata ∧ new.IsShrunk := by
  obtain ⟨es, after, hrun, hs, hasked⟩ := runs_reconcile_mixed
  have htarget : Quantity.ofBytes 2147483648 = .ok "2Gi" := rfl
  have hexceeds : Exceeds 2147483648 wideClaim := ⟨3221225472, capacityBytes_wideClaim, by decide⟩
  have hshrunk := (isShrunk_withRequest htarget (by decide)).2 hexceeds
  exact ⟨es, after, hrun, hs, _, hasked, rfl, hshrunk⟩

/-- The pass shrinks a claim because the wider claim exceeds what is requested. -/
theorem shrinks_iff_exceeds_mixed : ∃ es after,
    (reconcile .standard growing : Pass Unit ResizeOutcome).Runs () es (.ok (.started 2)) () ∧
      mixedStore.Serves es after ∧ ∃ ns new, .replaceClaim ns new ∈ calls es ∧ new.IsShrunk := by
  obtain ⟨es, after, hrun, hs, -⟩ := runs_reconcile_mixed
  have hheld : mixedStore.clusters.find? "prod" growing.name = some growing := rfl
  obtain ⟨-, hiff⟩ := shrinks_iff_exceeds hrun hs rfl hheld
  refine ⟨es, after, hrun, hs, (hiff 2 rfl).2 ⟨2147483648, decides_mixed.requested_eq, wideClaim, ?_, ?_⟩⟩
  · rw [usedClaims_mixed]
    simp
  · exact ⟨3221225472, capacityBytes_wideClaim, by decide⟩

end Volume

end GaleraOperator
