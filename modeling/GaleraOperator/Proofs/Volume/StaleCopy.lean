import GaleraOperator.Proofs.Volume.Interruption
import GaleraOperator.Proofs.Volume.Quiet
import GaleraOperator.Proofs.Volume.Shrinking

/-!
# A pass that goes by an older copy

A pass is given a copy of the cluster, which may be older than what the server holds, and decides by the note on that
copy. Taking a note back and setting the requested storage look again at what the server holds; writing a note does not.
So a resize that the server has a note of is left alone by every pass, except by one whose copy does not have the note
yet and asks for more than there is. That one writes the time anew and asks the claims once more.
-/

namespace GaleraOperator.Volume

open Kube Pass

variable {σ : Type} {m m' : σ} {es : List Exchange} {s t before after : Store} {ns name : String} {c held : Cluster}
  {settings : Settings} {configured target text : String} {requested : Nat} {claims : List Claim}
  {marks : Option String → Prop}

/-! ### Passes that write no note of their own -/

/-- A server holds a cluster with such a note. -/
def IsMarked (ns name : String) (marks : Option String → Prop) (s : Store) : Prop :=
  ∃ held, s.clusters.find? ns name = some held ∧ marks held.resizeMark?

/-- A call that asks no claim to grow, and writes clusters only with such a note. -/
structure LeavesMarked (marks : Option String → Prop) (call : Call) : Prop where
  unasked : ∀ ns claim, call ≠ .replaceClaim ns claim
  written : ∀ ns new, call = .replaceCluster ns new → marks new.resizeMark?

theorem leavesMarked_of_not_isWrite {call : Call} (h : call.isWrite = false) : LeavesMarked marks call := by
  constructor
  · rintro ns claim rfl
    cases h
  · rintro ns new rfl
    cases h

/-- A change that keeps such notes, whatever it is made to, keeps the note of the cluster. -/
theorem preserves_changeCluster {change : Cluster → Option Cluster}
    (hplace : ∀ latest new, change latest = some new → Objects.isAt ns name new = Objects.isAt ns name latest)
    (hmarks : ∀ latest new, change latest = some new → marks latest.resizeMark? → marks new.resizeMark?) :
    Preserves (IsMarked ns name marks) (LeavesMarked marks) (changeCluster settings ns name change : Pass σ Unit) := by
  rintro m es r m' s t h hs ⟨held, hheld, hmark⟩
  obtain ⟨hresult, -, hcalls⟩ := changeCluster_result h hs
  constructor
  · cases hresult with
    | refused | missing | unchanged => exact ⟨held, hheld, hmark⟩
    | changed stored changes written =>
      obtain rfl := Option.some.inj (hheld.symm.trans stored)
      exact ⟨_, Objects.find?_put_of_find? stored (hplace _ _ changes), hmarks _ _ changes hmark⟩
  · intro call hcall
    rcases hcalls call hcall with rfl | ⟨latest, new, stored, changes, rfl⟩
    · exact leavesMarked_of_not_isWrite rfl
    · obtain rfl := Option.some.inj (hheld.symm.trans stored)
      refine ⟨fun _ _ hclaim ↦ (by cases hclaim), fun _ _ hnew ↦ ?_⟩
      cases hnew
      exact hmarks _ _ changes hmark

/-- Setting the requested storage keeps the note. -/
theorem preserves_setStorage :
    Preserves (IsMarked ns name marks) (LeavesMarked marks)
      (changeCluster settings ns name (setStorage configured) : Pass σ Unit) := by
  refine preserves_changeCluster (fun _ _ ↦ setStorage_keeps) fun latest new hnew hmark ↦ ?_
  have hsame : ((setStorage configured latest).getD latest).resizeMark? = latest.resizeMark? :=
    (setStorage_getD latest).2
  rw [hnew] at hsame
  exact hsame ▸ hmark

/-- Taking the note back leaves none. -/
theorem preserves_markEnded (hnone : marks none) :
    Preserves (IsMarked ns name marks) (LeavesMarked marks)
      (changeCluster settings ns name markEnded : Pass σ Unit) := by
  refine preserves_changeCluster (fun _ _ ↦ markEnded_keeps) fun latest new hnew _ ↦ ?_
  have hgone := (markEnded_getD latest).2
  rw [hnew] at hgone
  exact hgone ▸ hnone

/-- What changes nothing keeps the note. -/
theorem preserves_of_reads {α : Type} {p : Pass σ α} (h : Asks (fun call ↦ call.isWrite = false) p) :
    Preserves (IsMarked ns name marks) (LeavesMarked marks) p := by
  apply Preserves.of_asks
  intro m es r m' hrun call hcall
  have hread := h m es r m' hrun call hcall
  refine ⟨leavesMarked_of_not_isWrite hread, fun s hs ↦ ?_⟩
  rwa [Store.perform_of_not_isWrite s hread]

/-- Giving up a resize keeps the note or takes it back. -/
theorem preserves_rollBack {α : Type} {reason : String} (hnone : marks none) :
    Preserves (IsMarked ns c.name marks) (LeavesMarked marks)
      (rollBack settings ns c configured reason : Pass σ α) := by
  refine .bind (preserves_of_reads (.aside fun _ ↦ rfl)) fun _ ↦ ?_
  refine .bind preserves_setStorage fun _ ↦ ?_
  exact .bind (preserves_markEnded hnone) fun _ ↦ preserves_of_reads (.fail _)

/-- Following up a resize keeps the note or takes it back. -/
theorem preserves_followUp {started : Instant} (hnone : marks none) :
    Preserves (IsMarked ns c.name marks) (LeavesMarked marks)
      (followUp settings ns c claims configured requested started : Pass σ ResizeOutcome) := by
  have hobserves : Asks (fun call ↦ call.isWrite = false)
      (claims.mapM (observeClaim ns requested started) : Pass σ (List (String × ClaimProgress))) :=
    fun _ _ _ _ hrun ↦ (Looks.mapM looks_observeClaim claims).reads hrun
  have horphan : LeavesMarked marks (.orphanStatefulSet ns (c.tierSet .database)) :=
    ⟨fun _ _ hclaim ↦ (by cases hclaim), fun _ _ hnew ↦ (by cases hnew)⟩
  refine .bind (preserves_of_reads hobserves) fun progress ↦ ?_
  split
  · exact preserves_rollBack hnone
  · split
    · refine .bind (.of_asks (.call ⟨horphan, fun _ hs ↦ hs⟩)) fun _ ↦ ?_
      refine .bind (preserves_markEnded hnone) fun _ ↦ ?_
      exact .bind (preserves_of_reads (.aside fun _ ↦ rfl)) fun _ ↦ preserves_of_reads (.pure _)
    · exact preserves_of_reads (.pure _)

/-- Refusing to make volumes smaller keeps the note. -/
theorem preserves_refuseShrink {actual : Nat} :
    Preserves (IsMarked ns c.name marks) (LeavesMarked marks)
      (refuseShrink settings ns c configured requested actual : Pass σ ResizeOutcome) := by
  refine .bind preserves_setStorage fun _ ↦ preserves_of_reads ?_
  exact .orOverflow_bind fun _ _ ↦ .orOverflow_bind fun _ _ ↦ .fail _

/-! ### When a pass starts a resize -/

/-- A pass that goes by a copy of a cluster finds a resize to start: the copy has no note of one, and asks for more
than the least of the claims has, and for another amount than the StatefulSet was made with. -/
structure FindsGrowth (s : Store) (ns : String) (c : Cluster) (requested : Nat) : Prop where
  namespace_eq : c.metadata.ns? = some ns
  unmarked : c.resizeMark? = none
  decides : ∃ actual configured configuredBytes, Decides s ns c actual configured configuredBytes requested ∧
    actual < requested ∧ requested ≠ configuredBytes

/-- A decision keeps the note, or takes it back if the copy has one, unless there is a resize to start. -/
theorem preserves_decideOn {actual : Nat} (hns : c.metadata.ns? = some ns) (hfinds : Finds s ns c actual configured)
    (hnot : ∀ requested, ¬FindsGrowth s ns c requested) (hnone : c.resizeMark? ≠ none → marks none) :
    Preserves (IsMarked ns c.name marks) (LeavesMarked marks)
      (decideOn settings ns c (usedClaims s ns c) actual configured : Pass σ ResizeOutcome) := by
  intro m es r m' u t h hs hmarked
  rcases runs_orFail_bind.1 h with ⟨f, -, rfl, rfl, rfl⟩ | ⟨configuredBytes, hbytes, hrest⟩
  · obtain rfl : t = u := hs
    exact ⟨hmarked, List.forall_mem_nil _⟩
  rcases runs_orFail_bind.1 hrest with ⟨f, -, rfl, rfl, rfl⟩ | ⟨requested, hrequested, hdecide⟩
  · obtain rfl : t = u := hs
    exact ⟨hmarked, List.forall_mem_nil _⟩
  refine (?_ : Preserves (IsMarked ns c.name marks) (LeavesMarked marks) _) _ _ _ _ _ _ hdecide hs hmarked
  cases hmark : c.resizeMark? with
  | some text =>
    have hnone : marks none := hnone (by simp [hmark])
    rcases ofCluster_of_marked hmark with ⟨started, hstarted⟩ | ⟨e, he⟩
    · simp only [hstarted]
      exact preserves_followUp hnone
    · simp only [he]
      exact preserves_of_reads (.fail e)
  | none =>
    simp only [ofCluster_of_unmarked hmark]
    by_cases hlt : requested < actual
    · rw [if_pos hlt]
      exact preserves_refuseShrink
    · rw [if_neg hlt]
      by_cases hequal : (requested = configuredBytes || requested = actual) = true
      · rw [if_pos hequal]
        exact preserves_of_reads (.pure _)
      · have hne : requested ≠ configuredBytes ∧ requested ≠ actual := by simpa using hequal
        have hdecides : Decides s ns c actual configured configuredBytes requested :=
          ⟨hfinds.used, hfinds.least, hfinds.template, hbytes, hrequested⟩
        exact absurd ⟨hns, hmark, _, _, _, hdecides, by omega, hne.1⟩ (hnot requested)

/-- The same of a whole pass. -/
theorem preserves_of_not_findsGrowth {r : Except Failure ResizeOutcome} (h : (reconcile settings c).Runs m es r m')
    (hs : s.Serves es t) (hns : c.metadata.ns? = some ns) (hnot : ∀ requested, ¬FindsGrowth s ns c requested)
    (hnone : c.resizeMark? ≠ none → marks none) (hmarked : IsMarked ns c.name marks s) :
    IsMarked ns c.name marks t ∧ ∀ call ∈ calls es, LeavesMarked marks call := by
  rcases runs_reconcile_decideOn h hs hns with
    ⟨-, rfl, hreads, -⟩ | ⟨first, rest, actual, configured, rfl, hreads, hfinds, hserves, hdecide⟩
  · exact ⟨hmarked, fun call hcall ↦ leavesMarked_of_not_isWrite (hreads call hcall)⟩
  · obtain ⟨ht, hcalls⟩ := preserves_decideOn hns hfinds hnot hnone _ _ _ _ _ _ hdecide hserves hmarked
    refine ⟨ht, fun call hcall ↦ ?_⟩
    rcases mem_calls_append.1 hcall with hcall | hcall
    · exact leavesMarked_of_not_isWrite (hreads call hcall)
    · exact hcalls call hcall

/-! ### What a pass does that starts a resize -/

/-- Claims whose capacities are readable are all asked, if no call is refused. -/
theorem growClaims_ok {r : Except Failure (List Bool)}
    (h : (claims.mapM (growClaim settings ns c configured requested)).Runs m es r m') (hgranted : Store.Granted es)
    (hcapacities : ∀ claim ∈ claims, ∃ capacity, capacityBytes claim = .ok capacity)
    (htarget : Quantity.ofBytes requested = .ok target) : ∃ asked, r = .ok asked := by
  induction claims generalizing m es r with
  | nil =>
    obtain ⟨-, rfl, -⟩ := runs_mapM_nil.1 h
    exact ⟨[], rfl⟩
  | cons claim claims ih =>
    obtain ⟨⟨capacity, hcapacity⟩, hcapacities⟩ := List.forall_mem_cons.1 hcapacities
    rcases runs_mapM_cons.1 h with ⟨es₁, es₂, b, m₁, r₂, rfl, -, hclaims, rfl⟩ | ⟨f, -, hclaim⟩
    · obtain ⟨-, hgranted₂⟩ := Store.granted_append.1 hgranted
      obtain ⟨asked, rfl⟩ := ih hclaims hgranted₂ hcapacities
      exact ⟨_, rfl⟩
    · exfalso
      rcases runs_orFail_bind.1 hclaim with ⟨f', hf', -⟩ | ⟨capacity', -, hrest⟩
      · cases hf'.symm.trans hcapacity
      split at hrest
      · obtain ⟨-, hr, -⟩ := runs_pure.1 hrest
        cases hr
      rcases runs_orOverflow_bind.1 hrest with ⟨o, ho, -⟩ | ⟨target', -, hasked⟩
      · cases ho.symm.trans htarget
      obtain ⟨reply, rest, rfl, hafter⟩ := runs_attempt_call_bind.1 hasked
      cases reply with
      | error e => exact hgranted _ e (List.mem_cons_self ..)
      | ok answer =>
        obtain ⟨-, hr, -⟩ := runs_pure.1 hafter
        cases hr

/-- A resize is started, if no call is refused. -/
theorem start_ok {r : Except Failure ResizeOutcome}
    (h : (start settings ns c claims configured requested).Runs m es r m') (hs : s.Serves es t)
    (hgranted : Store.Granted es) (hheld : s.clusters.find? ns c.name = some held)
    (hcapacities : ∀ claim ∈ claims, ∃ capacity, capacityBytes claim = .ok capacity)
    (htarget : Quantity.ofBytes requested = .ok target) : ∃ asked, r = .ok (.started asked) := by
  obtain ⟨time, rest, rfl, hrest⟩ := runs_ask_bind.1 h
  obtain ⟨u, hu, hs⟩ := hs
  obtain rfl : u = s := hu
  have hgranted : Store.Granted rest := fun call e hmem ↦ hgranted call e (List.mem_cons_of_mem _ hmem)
  rcases runs_bind.1 hrest with ⟨es₁, es₂, _, m₁, rfl, -, hafter⟩ | ⟨f, -, hmark⟩
  · obtain ⟨-, hgranted₂⟩ := Store.granted_append.1 hgranted
    rcases runs_bind.1 hafter with ⟨es₃, es₄, asked, m₂, rfl, -, hmeasure⟩ | ⟨f, -, hgrow⟩
    · obtain ⟨reply, rest, rfl, hend⟩ := runs_ask_bind.1 hmeasure
      obtain ⟨-, rfl, -⟩ := runs_pure.1 hend
      exact ⟨_, rfl⟩
    · obtain ⟨asked, hr⟩ := growClaims_ok hgrow hgranted₂ hcapacities htarget
      cases hr
  · obtain ⟨-, -, -, ⟨hrefused, -⟩ | ⟨hr, -⟩⟩ := changeCluster_held hmark hs (by rintro _ ⟨⟩; rfl) hheld
    · exact absurd hrefused hgranted.not_refused
    · cases hr

/-- A pass that finds a resize to start starts it, if no call is refused. -/
theorem started_of_findsGrowth {r : Except Failure ResizeOutcome} (h : (reconcile settings c).Runs m es r m')
    (hs : s.Serves es t) (hgranted : Store.Granted es) (hheld : s.clusters.find? ns c.name = some held)
    (hfinds : FindsGrowth s ns c requested) : ∃ asked, r = .ok (.started asked) := by
  obtain ⟨hns, hunmarked, actual, configured, configuredBytes, hdecides, hlt, hne⟩ := hfinds
  rcases runs_reconcile_decideOn h hs hns with
    ⟨-, -, -, -, hrefused | hnone⟩ | ⟨first, rest, actual', configured', rfl, -, hfinds, hserves, hdecide⟩
  · exact absurd hrefused hgranted.not_refused
  · exact absurd hdecides (hnone _ _ _ _)
  obtain ⟨rfl, rfl⟩ := hdecides.eq_of_finds hfinds
  obtain ⟨-, hgranted⟩ := Store.granted_append.1 hgranted
  rcases runs_orFail_bind.1 hdecide with ⟨f, hf, -⟩ | ⟨bytes, hbytes, hrest⟩
  · cases hf.symm.trans hdecides.configuredBytes_eq
  obtain rfl : bytes = configuredBytes := Except.ok.inj (hbytes.symm.trans hdecides.configuredBytes_eq)
  rcases runs_orFail_bind.1 hrest with ⟨f, hf, -⟩ | ⟨amount, hamount, hstart⟩
  · cases hf.symm.trans hdecides.requested_eq
  obtain rfl : amount = requested := Except.ok.inj (hamount.symm.trans hdecides.requested_eq)
  have hequal : ¬(amount = bytes || amount = actual') = true := by
    simpa using ⟨hne, Nat.ne_of_gt hlt⟩
  simp only [ofCluster_of_unmarked hunmarked, Nat.not_lt_of_gt hlt, hequal, Bool.false_eq_true, if_false] at hstart
  obtain ⟨target, htarget⟩ := Quantity.ofBytes_of_alignedBytes hamount
  exact start_ok hstart hserves hgranted hheld (fun _ ↦ hdecides.capacityBytes_ok) htarget

/-! ### The resize that the server has a note of -/

/-- What a pass may make of a note without overwriting it: the note stays, or, if the copy has one, it may be taken
back. -/
def MayLeave (c : Cluster) (text : String) (mark : Option String) : Prop :=
  mark = some text ∨ c.resizeMark? ≠ none ∧ mark = none

/-- A pass leaves a resize alone that the server has a note of. It starts none: it neither overwrites the note nor asks
a claim to grow. -/
structure KeepsResize (ns : String) (c : Cluster) (text : String) (es : List Exchange) (after : Store) : Prop where
  stored : ∃ stored, after.clusters.find? ns c.name = some stored ∧ MayLeave c text stored.resizeMark?
  written : ∀ ns' new, .replaceCluster ns' new ∈ calls es → MayLeave c text new.resizeMark?
  unasked : ∀ ns' claim, .replaceClaim ns' claim ∉ calls es

/-- A resize that was started leaves the other one alone only if its note is the same and nothing was to be asked. -/
theorem Restarted.eq_of_keepsResize {time : Instant}
    (h : Restarted ns c held before es time requested target after) (hunmarked : c.resizeMark? = none)
    (hkeeps : KeepsResize ns c text es after) :
    time.toSecondsText = text ∧ lagging requested (usedClaims before ns c) = [] := by
  constructor
  · obtain ⟨stored, hstored, hleft | ⟨hmarked, -⟩⟩ := hkeeps.stored
    · obtain rfl := Option.some.inj (h.marked.symm.trans hstored)
      exact Option.some.inj ((Cluster.resizeMark?_withResizeMark held _).symm.trans hleft)
    · exact absurd hunmarked hmarked
  · rw [List.eq_nil_iff_forall_not_mem]
    intro claim hclaim
    exact hkeeps.unasked ns _ (h.asks claim hclaim)

/-- When a pass leaves a resize alone that the server has a note of. Whatever the server refuses, it does unless its
copy of the cluster has no note and asks for more than there is. Then, if nothing is refused, it starts a resize over
the other one. -/
theorem keepsResize_unless_findsGrowth {r : Except Failure ResizeOutcome} (h : (reconcile settings c).Runs m es r m')
    (hs : before.Serves es after) (hheld : before.clusters.find? (Objects.namespaceOf c) c.name = some held)
    (hmark : held.resizeMark? = some text) :
    ((∀ requested, ¬FindsGrowth before (Objects.namespaceOf c) c requested) →
      KeepsResize (Objects.namespaceOf c) c text es after) ∧
    ∀ requested, FindsGrowth before (Objects.namespaceOf c) c requested → Store.Granted es →
      r = .ok (.started (lagging requested (usedClaims before (Objects.namespaceOf c) c)).length) ∧
        ∃ time target, Restarted (Objects.namespaceOf c) c held before es time requested target after ∧
          (KeepsResize (Objects.namespaceOf c) c text es after →
            time.toSecondsText = text ∧ lagging requested (usedClaims before (Objects.namespaceOf c) c) = []) := by
  have hmay : MayLeave c text held.resizeMark? := .inl hmark
  constructor
  · intro hnot
    cases hns : c.metadata.ns? with
    | none =>
      simp only [reconcile, hns] at h
      obtain ⟨rfl, -, -⟩ := runs_fail.1 h
      obtain rfl : after = before := hs
      exact ⟨⟨held, hheld, hmay⟩, fun _ _ hnew ↦ (by cases hnew), fun _ _ hclaim ↦ (by cases hclaim)⟩
    | some ns =>
      have hnamespace : Objects.namespaceOf c = ns := congrArg (Option.getD · "") hns
      rw [hnamespace] at hheld hnot ⊢
      have hmarked : IsMarked ns c.name (MayLeave c text) before := ⟨held, hheld, hmay⟩
      obtain ⟨hstored, hcalls⟩ :=
        preserves_of_not_findsGrowth h hs hns hnot (fun hcopy ↦ .inr ⟨hcopy, rfl⟩) hmarked
      exact ⟨hstored, fun ns' new hnew ↦ (hcalls _ hnew).written ns' new rfl,
        fun ns' claim hclaim ↦ (hcalls _ hclaim).unasked ns' claim rfl⟩
  · intro requested hfinds hgranted
    obtain ⟨asked, rfl⟩ := started_of_findsGrowth h hs hgranted hheld hfinds
    obtain ⟨_, _, _, hdecides, -⟩ := hfinds.decides
    obtain ⟨requested', time, target, hrequested, rfl, hrestarted⟩ :=
      restarted_of_started h hs hfinds.namespace_eq hheld
    obtain rfl : requested' = requested := Except.ok.inj (hrequested.symm.trans hdecides.requested_eq)
    exact ⟨rfl, time, target, hrestarted, hrestarted.eq_of_keepsResize hfinds.unmarked⟩

/-- The cluster with the note that a resize was started an hour before noon. -/
def markedEarlier : Cluster := growing.withResizeMark "2000-01-01T11:00:00Z"

/-- A server that has the earlier note, while the copy that a pass is given does not have it yet. -/
def earlierStore : Store := { growingStore with clusters := [markedEarlier] }

/-- What a pass at noon does after it has read: it writes the note and asks the claim. -/
private def overwriting : List Exchange :=
  [⟨.now, noon⟩, ⟨.call (.getCluster "prod" "db"), .ok (some markedEarlier)⟩,
    ⟨.call (.replaceCluster "prod" growingMarked), .ok growingMarked⟩,
    ⟨.call (.replaceClaim "prod" (growingClaim.withRequest "2Gi")), .ok (growingClaim.withRequest "2Gi")⟩,
    ⟨.measure "prod" "db" (.resized "started"), ()⟩]

theorem decides_earlier : Decides earlierStore "prod" growing 1073741824 "1Gi" 1073741824 2147483648 where
  used := decides_growing.used
  least := decides_growing.least
  template := decides_growing.template
  configuredBytes_eq := decides_growing.configuredBytes_eq
  requested_eq := decides_growing.requested_eq

theorem findsGrowth_earlier : FindsGrowth earlierStore "prod" growing 2147483648 where
  namespace_eq := rfl
  unmarked := rfl
  decides := ⟨1073741824, "1Gi", 1073741824, decides_earlier, by decide, by decide⟩

/-- Given the older copy of the cluster, the pass starts a resize over the one that the server has a note of. -/
theorem runs_reconcile_earlier : ∃ es after,
    (reconcile .standard growing : Pass Unit ResizeOutcome).Runs () es (.ok (.started 1)) () ∧
      earlierStore.Serves es after ∧ Store.Granted es ∧
      .replaceClaim "prod" (growingClaim.withRequest "2Gi") ∈ calls es ∧
      after.clusters.find? "prod" "db" = some growingMarked := by
  have hmark : markStarted noon.toSecondsText markedEarlier = some growingMarked := rfl
  have hcapacity : capacityBytes growingClaim = .ok (some 1073741824) := rfl
  have htarget : Quantity.ofBytes 2147483648 = .ok "2Gi" := rfl
  have hclaim : (growClaim .standard "prod" growing "1Gi" 2147483648 growingClaim : Pass Unit Bool).Runs () _
      (.ok true) () :=
    runs_growClaim_ok hcapacity (by decide) htarget
  have hgrow : ([growingClaim].mapM (growClaim .standard "prod" growing "1Gi" 2147483648) :
      Pass Unit (List Bool)).Runs () ((overwriting.drop 3).take 1) (.ok [true]) () :=
    runs_mapM_cons.2 (.inl ⟨_, [], true, (), .ok [], rfl, hclaim, runs_mapM_nil.2 ⟨rfl, rfl, rfl⟩, rfl⟩)
  have hstart : (start .standard "prod" growing [growingClaim] "1Gi" 2147483648 : Pass Unit ResizeOutcome).Runs ()
      overwriting (.ok (.started 1)) () := by
    refine runs_ask_bind.2 ⟨noon, _, rfl, runs_bind.2 (.inl ⟨_, _, (), (), rfl, runs_changeCluster_ok hmark, ?_⟩)⟩
    refine runs_bind.2 (.inl ⟨_, _, [true], (), rfl, hgrow, ?_⟩)
    exact runs_ask_bind.2 ⟨(), [], rfl, runs_pure.2 ⟨rfl, rfl, rfl⟩⟩
  have hdecide : (decideOn .standard "prod" growing [growingClaim] 1073741824 "1Gi" :
      Pass Unit ResizeOutcome).Runs () overwriting (.ok (.started 1)) () := by
    refine runs_orFail_bind.2 (.inr ⟨1073741824, decides_growing.configuredBytes_eq, ?_⟩)
    exact runs_orFail_bind.2 (.inr ⟨2147483648, decides_growing.requested_eq, hstart⟩)
  have hused : usedClaims earlierStore "prod" growing = [growingClaim] := usedClaims_growing
  have hrun := runs_reconcile_of_decides (c := growing) rfl decides_earlier (by rw [hused]; exact hdecide)
  have hfound : earlierStore.clusters.find? "prod" "db" = some markedEarlier := rfl
  have hserves : earlierStore.Serves (reading earlierStore "prod" growing ++ overwriting) _ :=
    serves_reading.2 ⟨_, rfl, Store.serves_ok.2 ⟨hfound.symm, Store.serves_ok.2 ⟨rfl, Store.serves_ok.2 ⟨rfl, _, rfl,
      rfl⟩⟩⟩⟩
  refine ⟨_, _, hrun, hserves, ?_, ?_, rfl⟩
  · refine Store.granted_append.2 ⟨granted_reading, fun call e hmem ↦ ?_⟩
    simp only [overwriting, List.mem_cons, Exchange.mk.injEq, Effect.call.injEq, reduceCtorEq, false_and, false_or,
      or_false, List.not_mem_nil] at hmem
    rcases hmem with ⟨rfl, hreply⟩ | ⟨rfl, hreply⟩ | ⟨rfl, hreply⟩ <;> cases hreply
  · rw [calls_append, List.mem_append]
    exact .inr (by simp [overwriting])

/-- A resize that the server has a note of is started again by a pass that goes by an older copy: the note is
overwritten, and the claim is asked once more. -/
theorem not_keepsResize_growing : ∃ es after,
    (reconcile .standard growing : Pass Unit ResizeOutcome).Runs () es (.ok (.started 1)) () ∧
      earlierStore.Serves es after ∧ Store.Granted es ∧
      earlierStore.clusters.find? "prod" growing.name = some markedEarlier ∧
      markedEarlier.resizeMark? = some "2000-01-01T11:00:00Z" ∧
      after.clusters.find? "prod" growing.name = some growingMarked ∧
      growingMarked.resizeMark? = some "2000-01-01T12:00:00Z" ∧
      ¬KeepsResize "prod" growing "2000-01-01T11:00:00Z" es after := by
  obtain ⟨es, after, hrun, hserves, hgranted, hasked, hafter⟩ := runs_reconcile_earlier
  refine ⟨es, after, hrun, hserves, hgranted, rfl, by decide +kernel, hafter, by decide +kernel, fun hkeeps ↦ ?_⟩
  exact hkeeps.unasked "prod" _ hasked

/-- A pass that goes by the older copy starts a resize over the noted one; a pass whose copy has the note leaves it
alone. -/
theorem keepsResize_unless_findsGrowth_growing :
    (∃ es after time target, (reconcile .standard growing : Pass Unit ResizeOutcome).Runs () es (.ok (.started 1)) () ∧
      Restarted "prod" growing markedEarlier earlierStore es time 2147483648 target after) ∧
    ∃ es, (reconcile .standard growingMarked : Pass Unit ResizeOutcome).Runs () es (.ok .waiting) () ∧
      KeepsResize "prod" growingMarked noon.toSecondsText es markedStore := by
  constructor
  · obtain ⟨es, after, hrun, hserves, hgranted, -, -⟩ := runs_reconcile_earlier
    have hheld : earlierStore.clusters.find? "prod" growing.name = some markedEarlier := rfl
    have hmark := Cluster.resizeMark?_withResizeMark growing "2000-01-01T11:00:00Z"
    obtain ⟨-, hstarts⟩ := keepsResize_unless_findsGrowth hrun hserves hheld hmark
    obtain ⟨-, time, target, hrestarted, -⟩ := hstarts _ findsGrowth_earlier hgranted
    exact ⟨es, after, time, target, hrun, hrestarted⟩
  · obtain ⟨es, hrun, hserves, -, -⟩ := runs_after_interruption
    have hheld : markedStore.clusters.find? "prod" growingMarked.name = some growingMarked := rfl
    have hmark := Cluster.resizeMark?_withResizeMark growing noon.toSecondsText
    refine ⟨es, hrun, (keepsResize_unless_findsGrowth hrun hserves hheld hmark).1 fun requested hfinds ↦ ?_⟩
    cases hmark.symm.trans hfinds.unmarked

end GaleraOperator.Volume
