import GaleraOperator.Proofs.Instant.RoundTrip
import GaleraOperator.Proofs.Volume.Reconcile

/-!
# The protocol of a resize

What one pass over the volumes of a stored cluster may do, told by how it ends: which calls it made, in which order, and
how what the server holds after it differs from what it held before. A server that refuses calls, whichever it likes, is
included.
-/

namespace GaleraOperator.Volume

open Kube Pass

variable {σ : Type} {m m' : σ} {es : List Exchange} {before after : Store} {ns : String} {c : Cluster}
  {settings : Settings}

/-- A resize was started: after the exchanges `first`, in which the note was written with the time, come those in which
claims were asked for `target`. -/
structure Started (ns : String) (c : Cluster) (before : Store) (first last : List Exchange) (time : Instant)
    (requested : Nat) (target : String) (asked : Nat) (after : Store) : Prop where
  unmarked : c.resizeMark? = none
  requested_eq : Quantity.alignedBytes c.requestedStorage = .ok requested
  target_eq : Quantity.ofBytes requested = .ok target
  clock : ⟨.now, time⟩ ∈ first
  written : ⟨.call (.replaceCluster ns (c.withResizeMark time.toSecondsText)),
    .ok (c.withResizeMark time.toSecondsText)⟩ ∈ first
  /-- No claim was asked before the note was written. -/
  earlier : ∀ claim, .replaceClaim ns claim ∉ calls first
  /-- The claims of pods that are not known to have the requested bytes were asked, each once, and no other claims. -/
  asks : calls last = (lagging requested (usedClaims before ns c)).map fun claim ↦
    .replaceClaim ns (claim.withRequest target)
  only : ∀ claim ∈ lagging requested (usedClaims before ns c), claim.IsAsked target (claim.withRequest target)
  count : asked = (lagging requested (usedClaims before ns c)).length
  marked : after.clusters.find? ns c.name = some (c.withResizeMark time.toSecondsText)
  /-- The note is read as one of a resize in progress. Only a year that does not have four digits, which is written with
  a sign, is an exception. -/
  readable : (∃ since, ResizeState.ofCluster (c.withResizeMark time.toSecondsText) = .ok (.inProgress since)) ↔
    0 ≤ time.year ∧ time.year ≤ 9999
  after_eq : after = Store.asked { before with clusters := before.clusters.put (c.withResizeMark time.toSecondsText) }
    target (lagging requested (usedClaims before ns c))

/-- A resize was completed: after the exchanges `first`, which changed nothing, the StatefulSet was deleted, and after
that the note was taken back. -/
structure Completed (ns : String) (c : Cluster) (before : Store) (first last : List Exchange) (requested : Nat)
    (after : Store) : Prop where
  marked : ∃ since, ResizeState.ofCluster c = .ok (.inProgress since)
  requested_eq : Quantity.alignedBytes c.requestedStorage = .ok requested
  grown : ∀ claim ∈ usedClaims before ns c, capacityBytes claim = .ok (some requested)
  reads : Reads first
  cluster : ∀ call ∈ calls last, IsClusterCall ns c.name call
  unmarked : ∃ stored, after.clusters.find? ns c.name = some stored ∧ stored.resizeMark? = none ∧
    stored.requestedStorage = c.requestedStorage
  after_same : Store.SameButClusters
    { before with statefulSets := before.statefulSets.remove ns (c.tierSet .database) } after

/-- What the StatefulSet that a server holds of a cluster was made with. -/
def IsConfigured (s : Store) (ns : String) (c : Cluster) (configured : String) : Prop :=
  ∃ set, s.statefulSets.find? ns (c.tierSet .database) = some set ∧ set.templateRequest? dataVolume = some configured

/-- What a pass may do, by how it ends. -/
def Transition (ns : String) (c : Cluster) (before : Store) (es : List Exchange) (after : Store) :
    Except Failure ResizeOutcome → Prop
  | .ok .noChange | .ok .waiting => Reads es
  | .ok (.started asked) => ∃ first last time requested target, es = first ++ last ∧
    Started ns c before first last time requested target asked after
  | .ok .completed => ∃ first last requested,
    es = first ++ ⟨.call (.orphanStatefulSet ns (c.tierSet .database)), .ok ()⟩ :: last ∧
      Completed ns c before first last requested after
  | .error (.error (.resize _)) => ∃ configured, IsConfigured before ns c configured ∧ IsRolledBack ns c configured after
  | .error (.error (.shrink ..)) => c.resizeMark? = none ∧ before.SameButClusters after ∧
    ∃ configured, IsConfigured before ns c configured ∧ IsRolledBack ns c configured after
  | .error _ => True

theorem transition_of_not_isVerdict {f : Failure} (h : f.isVerdict = false) :
    Transition ns c before es after (.error f) := by
  rcases f with e | o
  · cases e <;> trivial
  · trivial

theorem transition_of_reads {r : Except Failure ResizeOutcome} (h : Reads es)
    (hr : r = .ok .noChange ∨ r = .ok .waiting ∨ ∃ f, r = .error f ∧ f.isVerdict = false) :
    Transition ns c before es after r := by
  rcases hr with rfl | rfl | ⟨f, rfl, hf⟩
  · exact h
  · exact h
  · exact transition_of_not_isVerdict hf

theorem transition_of_gaveUp {last : List Exchange} {configured : String} {f : Failure}
    (hconfigured : IsConfigured before ns c configured) (h : GaveUp (α := Unit) ns c configured last (.error f) after) :
    Transition ns c before es after (.error f) := by
  rcases h with hrefused | ⟨reason, hr, hrolled⟩
  · exact transition_of_not_isVerdict hrefused.not_isVerdict
  · cases hr
    exact ⟨configured, hconfigured, hrolled⟩

/-- The note of a time of the years 0 to 9999, and no other, is read. -/
theorem ofCluster_withResizeMark (c : Cluster) (time : Instant) :
    (∃ since, ResizeState.ofCluster (c.withResizeMark time.toSecondsText) = .ok (.inProgress since)) ↔
      0 ≤ time.year ∧ time.year ≤ 9999 := by
  rw [← Instant.ofRfc3339_toSecondsText_iff]
  unfold ResizeState.ofCluster
  rw [Cluster.resizeMark?_withResizeMark]
  cases hread : Instant.ofRfc3339 time.toSecondsText <;> simp [hread]

theorem transition_of_followUp {actual : Nat} {configured : String} {configuredBytes requested : Nat}
    {started : Instant} {first last : List Exchange} {r : Except Failure ResizeOutcome}
    (hdecides : Decides before ns c actual configured configuredBytes requested)
    (hmarked : ResizeState.ofCluster c = .ok (.inProgress started)) (hreads : Reads first)
    (h : FollowUp ns c c configured requested started (usedClaims before ns c) before last r after) :
    Transition ns c before (first ++ last) after r := by
  cases h with
  | failed reads why =>
    rcases why with hrefused | herror
    · exact transition_of_not_isVerdict hrefused.not_isVerdict
    · obtain ⟨claim, -, hclaim⟩ := mapM_eq_error herror
      exact transition_of_not_isVerdict (not_isVerdict_of_progressOf hclaim)
  | givenUp found failed gaveUp same => exact transition_of_gaveUp hdecides.template gaveUp
  | waiting found going left reads => exact reads_append.2 ⟨hreads, reads⟩
  | stopped grown refused => exact transition_of_not_isVerdict refused.not_isVerdict
  | completed grown reads ends unmarked same =>
    refine ⟨_, _, requested, (List.append_assoc ..).symm, ⟨started, hmarked⟩, hdecides.requested_eq, grown,
      reads_append.2 ⟨hreads, reads⟩, ends, ⟨_, unmarked, ?_, ?_⟩, same⟩
    · exact (markEnded_getD c).2
    · exact (markEnded_getD c).1

theorem transition_of_start {actual : Nat} {configured target : String} {configuredBytes requested : Nat}
    {first last : List Exchange} {r : Except Failure ResizeOutcome}
    (hdecides : Decides before ns c actual configured configuredBytes requested) (hunmarked : c.resizeMark? = none)
    (hreads : Reads first) (htarget : Quantity.ofBytes requested = .ok target)
    (hstored : before.clusters.find? ns c.name = some c)
    (h : Start ns c c configured target requested (usedClaims before ns c) before last r after) :
    Transition ns c before (first ++ last) after r := by
  cases h with
  | refused refused cluster => exact transition_of_not_isVerdict refused.not_isVerdict
  | @marked first' last' rest time _ _ clock written cluster growth quiet =>
    cases growth with
    | all granted count asks after_eq =>
      refine ⟨first ++ first', last' ++ rest, time, requested, target, by simp, ?_⟩
      exact {
        unmarked := hunmarked
        requested_eq := hdecides.requested_eq
        target_eq := htarget
        clock := List.mem_append_right first clock
        written := List.mem_append_right first written
        earlier := by
          intro claim hmem
          rcases mem_calls_append.1 hmem with hmem | hmem
          · exact not_replaceClaim_of_reads hreads claim hmem
          · exact not_replaceClaim_of_isClusterCall cluster claim hmem
        asks := by rw [calls_append, quiet, List.append_nil, asks]
        only := fun claim _ ↦ claim.isAsked_withRequest target
        count := count
        marked := by
          rw [after_eq]
          exact Objects.find?_put_of_find? hstored rfl
        readable := ofCluster_withResizeMark c time
        after_eq := after_eq }
    | stopped order plain => exact transition_of_not_isVerdict plain
    | givenUp initial gaveUp same hard => exact transition_of_gaveUp hdecides.template gaveUp

/-- What one pass over the volumes of a stored cluster may do, whatever the server refuses. -/
theorem reconcile_transition {r : Except Failure ResizeOutcome} (h : (reconcile settings c).Runs m es r m')
    (hs : before.Serves es after) (hstored : before.clusters.find? (Objects.namespaceOf c) c.name = some c) :
    Transition (Objects.namespaceOf c) c before es after r := by
  cases hns : c.metadata.ns? with
  | none =>
    simp only [reconcile, hns] at h
    obtain ⟨rfl, rfl, rfl⟩ := runs_fail.1 h
    exact transition_of_not_isVerdict rfl
  | some ns =>
    have hnamespace : Objects.namespaceOf c = ns := congrArg (Option.getD · "") hns
    rw [hnamespace] at hstored ⊢
    cases (runs_reconcile h hs hns hstored).2 with
    | undecided reads plain why => exact transition_of_reads reads (plain.imp_right .inr)
    | unreadable reads fault => exact transition_of_not_isVerdict (not_isVerdict_of_ofCluster fault)
    | followUp decides marked reads followUp quiet => exact transition_of_followUp decides marked reads followUp
    | noChange decides unmarked reads equal => exact reads
    | shrink decides unmarked lt reads shrink cluster =>
      cases shrink with
      | refused refused => exact transition_of_not_isVerdict refused.not_isVerdict
      | reset verdict stored same =>
        rcases verdict with hplain | ⟨requestedText, actualText, rfl⟩
        · exact transition_of_not_isVerdict hplain
        · exact ⟨unmarked, same, _, decides.template, _, stored, (setStorage_getD c).2.trans unmarked,
            (setStorage_getD c).1⟩
    | start decides unmarked ge ne reads asks start =>
      exact transition_of_start decides unmarked reads asks hstored start

/-- A cluster of one pod that asks for more storage than it was made with. -/
def growing : Cluster where
  metadata := { ObjectMeta.empty with name := some "db", ns? := some "prod" }
  spec := ⟨⟨1, "image", true, ⟨none, "2Gi"⟩⟩, none, none, false, none⟩
  status := none

/-- The pod of the cluster. -/
def growingPod : Pod :=
  ⟨{ ObjectMeta.empty with name := some "db-pxc-0", ns? := some "prod",
                           labels := some (growing.tierLabels .database) }, none, []⟩

/-- The claim of the pod. -/
def growingClaim : Claim where
  metadata := { growingPod.metadata with name := some "datadir-db-pxc-0" }
  spec := some ⟨some ⟨some (.ofList [("storage", "1Gi")]), []⟩, []⟩
  status := some ⟨some (.ofList [("storage", "1Gi")]), none, []⟩

/-- The StatefulSet of the cluster. -/
def growingSet : StatefulSet :=
  ⟨{ ObjectMeta.empty with name := some "db-pxc", ns? := some "prod" },
    some ⟨⟨none, none⟩, some [⟨{ ObjectMeta.empty with name := some "datadir" },
      some ⟨some ⟨some (.ofList [("storage", "1Gi")]), []⟩, []⟩, none⟩], []⟩, none⟩

/-- What a server holds of the cluster. -/
def growingStore : Store :=
  { Store.empty with clusters := [growing], pods := [growingPod], statefulSets := [growingSet], claims := [growingClaim] }

/-- Noon of the first day of the year 2000. -/
def noon : Instant := Instant.wholeSecond ⟨730485, 43200, 1, by decide, by decide⟩

theorem separable_growing : (growing.tierLabels .database).Separable :=
  Labels.separable_componentLabels (by decide +kernel) (by decide +kernel)

/-- A claim in the place of the only one is the only volume of a cluster of that name. -/
theorem volumes_of_onlyClaim {c : Cluster} {claim : Claim} (hname : c.name = growing.name)
    (hclaim : claim.metadata = growingClaim.metadata) (hpods : s.pods = [growingPod]) (hclaims : s.claims = [claim]) :
    dataClaims s "prod" c = [claim] ∧ usedClaims s "prod" c = [claim] := by
  have hlabels : c.tierLabels .database = growing.tierLabels .database := congrArg (componentLabels · _) hname
  have hselected : Objects.select "prod" (growing.tierLabels .database).selector [claim] = [claim] := by
    refine Objects.select_eq_self separable_growing (List.forall_mem_singleton.2 ?_)
    change claim.metadata.ns?.getD "" = _ ∧ claim.metadata.labels = _
    rw [hclaim]
    exact ⟨rfl, rfl⟩
  have hcalled : claim.name = growingClaim.name := congrArg ObjectMeta.displayName hclaim
  have hdata : dataClaims s "prod" c = [claim] := by
    rw [dataClaims, hlabels, hclaims, hselected]
    refine List.filter_eq_self.2 (List.forall_mem_singleton.2 ?_)
    rw [isDataClaim, hcalled, claimStem, Cluster.tierSet, hname]
    rfl
  have hselectedPods : Objects.select "prod" (growing.tierLabels .database).selector [growingPod] = [growingPod] :=
    Objects.select_eq_self separable_growing (List.forall_mem_singleton.2 ⟨rfl, rfl⟩)
  have hnames : podClaimNames s "prod" c = [growingClaim.name] := by
    rw [podClaimNames, hlabels, hpods, hselectedPods]
    rfl
  refine ⟨hdata, ?_⟩
  rw [usedClaims, hdata, hnames]
  refine List.filter_eq_self.2 (List.forall_mem_singleton.2 ?_)
  rw [hcalled]
  exact List.contains_iff_mem.2 (List.mem_singleton_self _)

theorem dataClaims_growing : dataClaims growingStore "prod" growing = [growingClaim] :=
  (volumes_of_onlyClaim rfl rfl rfl rfl).1

theorem usedClaims_growing : usedClaims growingStore "prod" growing = [growingClaim] :=
  (volumes_of_onlyClaim rfl rfl rfl rfl).2

theorem decides_growing : Decides growingStore "prod" growing 1073741824 "1Gi" 1073741824 2147483648 where
  used := by simp [usedClaims_growing]
  least := by
    rw [dataClaims_growing]
    rfl
  template := ⟨growingSet, rfl, rfl⟩
  configuredBytes_eq := by decide +kernel
  requested_eq := by decide +kernel

/-- The cluster with the note that its resize was started at noon. -/
def growingMarked : Cluster := growing.withResizeMark noon.toSecondsText

/-- What the server holds once the note was written. -/
def markedStore : Store := { growingStore with clusters := [growingMarked] }

/-- What a pass over the cluster does before it asks the claim. -/
def growingOpening : List Exchange :=
  reading growingStore "prod" growing ++ [⟨.now, noon⟩, ⟨.call (.getCluster "prod" "db"), .ok (some growing)⟩,
    ⟨.call (.replaceCluster "prod" growingMarked), .ok growingMarked⟩]

theorem serves_growingOpening : growingStore.Serves (growingOpening ++ es) after ↔ markedStore.Serves es after := by
  have hfound : growingStore.clusters.find? "prod" "db" = some growing := rfl
  have hwritten : (growingStore.perform (.replaceCluster "prod" growingMarked)).2 = markedStore := rfl
  rw [growingOpening, List.append_assoc, serves_reading]
  constructor
  · rintro ⟨_, rfl, hs⟩
    obtain ⟨-, hread⟩ := Store.serves_ok.1 hs
    obtain ⟨-, hrest⟩ := Store.serves_ok.1 hread
    exact hwritten ▸ hrest
  · intro hs
    refine ⟨_, rfl, Store.serves_ok.2 ⟨hfound.symm, Store.serves_ok.2 ⟨rfl, ?_⟩⟩⟩
    rw [← hwritten] at hs
    exact hs

/-- A pass over the cluster reads, writes the note and asks the claim. -/
theorem runs_reconcile_growing {r : Except Failure ResizeOutcome}
    (h : (do
      let asked ← [growingClaim].mapM (growClaim .standard "prod" growing "1Gi" 2147483648)
      measure "prod" "db" (.resized "started")
      return .started (asked.count true) : Pass Unit ResizeOutcome).Runs () es r ()) :
    (reconcile .standard growing).Runs () (growingOpening ++ es) r () := by
  have hmark : markStarted noon.toSecondsText growing = some growingMarked := rfl
  have hstart : (start .standard "prod" growing [growingClaim] "1Gi" 2147483648 : Pass Unit ResizeOutcome).Runs () _ r () :=
    runs_ask_bind.2 ⟨noon, _, rfl, runs_bind.2 (.inl ⟨_, _, (), (), rfl, runs_changeCluster_ok hmark, h⟩)⟩
  have hdecide : (decideOn .standard "prod" growing [growingClaim] 1073741824 "1Gi" : Pass Unit ResizeOutcome).Runs ()
      _ r () :=
    runs_orFail_bind.2 (.inr ⟨1073741824, decides_growing.configuredBytes_eq,
      runs_orFail_bind.2 (.inr ⟨2147483648, decides_growing.requested_eq, hstart⟩)⟩)
  have hrun := runs_reconcile_of_decides (c := growing) rfl decides_growing (by rw [usedClaims_growing]; exact hdecide)
  rwa [growingOpening, List.append_assoc]

/-- The claim of the only pod is asked to grow. -/
theorem reconcile_transition_started : ∃ es after,
    (reconcile .standard growing).Runs () es (.ok (.started 1)) () ∧ growingStore.Serves es after ∧
      Transition "prod" growing growingStore es after (.ok (.started 1)) := by
  have hgrow : (growClaim .standard "prod" growing "1Gi" 2147483648 growingClaim : Pass Unit Bool).Runs ()
      [⟨.call (.replaceClaim "prod" (growingClaim.withRequest "2Gi")), .ok (growingClaim.withRequest "2Gi")⟩]
      (.ok true) () :=
    runs_orFail_bind.2 (.inr ⟨some 1073741824, by decide +kernel, runs_orOverflow_bind.2 (.inr ⟨"2Gi",
      by decide +kernel, runs_attempt_call_bind.2 ⟨.ok _, [], rfl, runs_pure.2 ⟨rfl, rfl, rfl⟩⟩⟩)⟩)
  have hrun := runs_reconcile_growing (r := .ok (.started 1)) (runs_bind.2 (.inl ⟨_, _, [true], (), rfl,
    runs_mapM_cons.2 (.inl ⟨_, [], true, (), .ok [], rfl, hgrow, runs_mapM_nil.2 ⟨rfl, rfl, rfl⟩, rfl⟩),
    runs_ask_bind.2 ⟨(), [], rfl, runs_pure.2 ⟨rfl, rfl, rfl⟩⟩⟩))
  have hasked : markedStore.Serves [⟨.call (.replaceClaim "prod" (growingClaim.withRequest "2Gi")), .ok _⟩,
      ⟨.measure "prod" "db" (.resized "started"), ()⟩] _ := Store.serves_ok.2 ⟨rfl, _, rfl, rfl⟩
  have hserves := serves_growingOpening.2 hasked
  exact ⟨_, _, hrun, hserves, reconcile_transition hrun hserves (by decide +kernel)⟩

end GaleraOperator.Volume
