import GaleraOperator.Proofs.Objects
import GaleraOperator.Proofs.Volume.Transition

/-!
# A resize that was interrupted

The note of a resize is written before claims are asked to grow, so a pass that is stopped on the way leaves the note, and
claims that were not asked. The next pass finds the note and follows the resize up, which asks no claim to grow. What it
does then about the resize depends on whether a claim failed.
-/

namespace GaleraOperator

open Kube

namespace Kube.Claim

/-- A claim without what it asks for. -/
def withoutSpec (c : Claim) : Claim := { c with spec := none }

theorem isAt_eq_of_withoutSpec_eq {ns name : String} {x y : Claim} (h : y.withoutSpec = x.withoutSpec) :
    Objects.isAt ns name y = Objects.isAt ns name x := by
  have hmetadata : y.metadata = x.metadata := congrArg (·.metadata) h
  change (decide (y.metadata.ns?.getD "" = ns) && decide (y.metadata.name.getD "" = name)) = _
  rw [hmetadata]
  rfl

/-- Putting a claim that asks for more in the place of what was made of it changes nothing but what it asks for. -/
theorem map_withoutSpec_put {xs ys : Objects Claim} {claim : Claim} (quantity : String) (hdistinct : xs.Distinct)
    (hclaim : claim ∈ xs) (h : ys.map withoutSpec = xs.map withoutSpec) :
    (ys.put (claim.withRequest quantity)).map withoutSpec = xs.map withoutSpec := by
  induction ys generalizing xs with
  | nil =>
    cases List.map_eq_nil_iff.1 h.symm
    cases hclaim
  | cons y ys ih =>
    cases xs with
    | nil => cases h
    | cons x xs =>
      obtain ⟨hhead, htail⟩ := List.cons.inj h
      obtain ⟨hx, hxs⟩ := List.pairwise_cons.1 hdistinct
      have hat : Objects.isAt (Objects.namespaceOf claim) (Objects.nameOf claim) y =
          Objects.isAt (Objects.namespaceOf claim) (Objects.nameOf claim) x := isAt_eq_of_withoutSpec_eq hhead
      unfold Objects.put
      split
      · next hy =>
        rcases List.mem_cons.1 hclaim with rfl | hmem
        · simp only [List.map_cons, htail]
          rfl
        · have hxclaim := hx claim hmem
          have hclaimx : Objects.isAt (Objects.namespaceOf claim) (Objects.nameOf claim) x = true := hat.symm.trans hy
          simp only [Objects.isAt, Bool.and_eq_true, decide_eq_true_eq] at hclaimx
          rw [hclaimx.1, hclaimx.2, Objects.isAt_self] at hxclaim
          cases hxclaim
      · next hy =>
        rcases List.mem_cons.1 hclaim with rfl | hmem
        · exact absurd (hat.trans (Objects.isAt_self _)) hy
        · rw [List.map_cons, ih hxs hmem htail, hhead, List.map_cons]

theorem map_withoutSpec_filter {p : Claim → Bool} (hp : ∀ claim, p claim.withoutSpec = p claim) (xs : List Claim) :
    (xs.filter p).map withoutSpec = (xs.map withoutSpec).filter p := by
  rw [List.filter_map, show p ∘ withoutSpec = p from funext hp]

theorem map_withoutSpec_select (ns selector : String) (xs : Objects Claim) :
    (xs.select ns selector).map withoutSpec = Objects.select ns selector (xs.map withoutSpec) :=
  map_withoutSpec_filter (fun _ ↦ rfl) xs

end Kube.Claim

namespace Volume

variable {σ τ : Type} {m₁ m₁' : σ} {m₂ m₂' : τ} {first second : List Exchange} {before between after s t : Store}
  {ns : String} {c next : Cluster} {settings settings' : Settings} {actual configuredBytes requested : Nat}
  {configured : String} {time : Instant}

open Pass

/-- Whether two servers hold the same of what volumes depend on, but for what claims ask for. -/
structure SameButRequests (s t : Store) : Prop where
  claims : t.claims.map Claim.withoutSpec = s.claims.map Claim.withoutSpec
  pods : t.pods = s.pods
  statefulSets : t.statefulSets = s.statefulSets

theorem sameButRequests_asked {part : List Claim} {target : String} (hdistinct : s.claims.Distinct)
    (hpart : ∀ claim ∈ part, claim ∈ s.claims) (h : SameButRequests s t) : SameButRequests s (t.asked target part) := by
  induction part generalizing t with
  | nil => exact h
  | cons claim part ih =>
    obtain ⟨hclaim, hpart⟩ := List.forall_mem_cons.1 hpart
    have hput := Claim.map_withoutSpec_put target hdistinct hclaim h.claims
    exact ih hpart (t := { t with claims := t.claims.put (claim.withRequest target) }) ⟨hput, h.pods, h.statefulSets⟩

/-- The volumes of a cluster are the same claims after claims were asked for more, whatever was changed of the cluster but
its name. -/
theorem SameButRequests.map_dataClaims (h : SameButRequests s t) (ns : String) (hname : next.name = c.name) :
    (dataClaims t ns next).map Claim.withoutSpec = (dataClaims s ns c).map Claim.withoutSpec := by
  have hlabels : next.tierLabels .database = c.tierLabels .database := congrArg (componentLabels · _) hname
  have hclaim : isDataClaim next = isDataClaim c := by
    unfold isDataClaim claimStem Cluster.tierSet
    rw [hname]
  have hdata := Claim.map_withoutSpec_filter (p := isDataClaim c) fun _ ↦ rfl
  rw [dataClaims, dataClaims, hlabels, hclaim, hdata, hdata, Claim.map_withoutSpec_select, Claim.map_withoutSpec_select,
    h.claims]

theorem SameButRequests.map_usedClaims (h : SameButRequests s t) (ns : String) (hname : next.name = c.name) :
    (usedClaims t ns next).map Claim.withoutSpec = (usedClaims s ns c).map Claim.withoutSpec := by
  have hnames : podClaimNames t ns next = podClaimNames s ns c := by
    unfold podClaimNames Cluster.tierLabels
    rw [h.pods, hname]
  have hused := Claim.map_withoutSpec_filter (p := fun claim ↦ (podClaimNames s ns c).contains claim.name) fun _ ↦ rfl
  rw [usedClaims, usedClaims, hnames, hused, hused, h.map_dataClaims ns hname]

/-- What a pass finds is the same after claims were asked for more, whatever was changed of the cluster but its name. -/
theorem SameButRequests.finds (h : SameButRequests s t) (hname : next.name = c.name)
    (hfinds : Finds s ns c actual configured) : Finds t ns next actual configured where
  used hempty := by
    have hused := h.map_usedClaims ns hname
    rw [hempty] at hused
    exact hfinds.used (List.map_eq_nil_iff.1 hused.symm)
  least := by
    have hmap (claims : List Claim) : leastCapacity (claims.map Claim.withoutSpec) = leastCapacity claims := by
      unfold leastCapacity
      rw [List.mapM_map]
      rfl
    rw [← hmap, h.map_dataClaims ns hname, hmap]
    exact hfinds.least
  template := by
    obtain ⟨set, hset, hconfigured⟩ := hfinds.template
    refine ⟨set, ?_, hconfigured⟩
    rw [h.statefulSets, Cluster.tierSet, hname]
    exact hset

/-- What a pass decides on is the same after claims were asked for more and a note was written on the cluster. -/
theorem Decides.again (hdecides : Decides s ns c actual configured configuredBytes requested)
    (h : SameButRequests s t) (text : String) :
    Decides t ns (c.withResizeMark text) actual configured configuredBytes requested := by
  obtain ⟨hused, hleast, htemplate⟩ := h.finds (c.name_withResizeMark text) hdecides.finds
  exact ⟨hused, hleast, htemplate, hdecides.configuredBytes_eq, hdecides.requested_eq⟩

/-- A claim that lags behind is one of the claims of the server. -/
theorem mem_claims_of_lagging {claim : Claim} (h : claim ∈ lagging requested (usedClaims s ns c)) : claim ∈ s.claims := by
  have hdata : claim ∈ dataClaims s ns c := List.mem_of_mem_filter (List.mem_of_mem_filter h)
  exact List.mem_of_mem_filter (List.mem_of_mem_filter hdata)

/-- A pass started a resize and was stopped before it had asked all claims that lag behind. -/
structure Interrupted (ns : String) (c : Cluster) (before : Store) (first : List Exchange) (time : Instant)
    (requested : Nat) (between : Store) : Prop where
  decides : ∃ actual configured configuredBytes, Decides before ns c actual configured configuredBytes requested
  clock : ⟨.now, time⟩ ∈ first
  marked : between.clusters.find? ns c.name = some (c.withResizeMark time.toSecondsText)
  left : ∃ target part next rest, lagging requested (usedClaims before ns c) = part ++ next :: rest ∧
    between = Store.asked { before with clusters := before.clusters.put (c.withResizeMark time.toSecondsText) } target part

/-- A pass that ended with an error of asking a claim that is not final was interrupted. -/
theorem interrupted_of_runs {e : Error} {claim : Claim}
    (h : (reconcile settings c).Runs m₁ first (.error (.error e)) m₁') (hs : before.Serves first between)
    (hns : c.metadata.ns? = some ns) (hstored : before.clusters.find? ns c.name = some c)
    (hstop : ⟨.call (.replaceClaim ns claim), .error e⟩ ∈ first) (hsoft : isHardFailure e = false) :
    ∃ time requested, Interrupted ns c before first time requested between := by
  have hcall : .replaceClaim ns claim ∈ calls first := mem_calls.2 ⟨_, hstop⟩
  cases (runs_reconcile h hs hns hstored).2 with
  | undecided reads | unreadable reads => cases reads _ hcall
  | followUp decides marked reads followUp quiet =>
    rcases mem_calls_append.1 hcall with hmem | hmem
    · cases reads _ hmem
    · exact absurd hmem (quiet claim)
  | shrink decides unmarked lt reads shrink cluster =>
    rcases mem_calls_append.1 hcall with hmem | hmem
    · cases reads _ hmem
    · exact absurd hmem (not_replaceClaim_of_isClusterCall cluster claim)
  | start decides unmarked ge ne reads asks start =>
    rcases List.mem_append.1 hstop with hmem | hmem
    · cases reads _ (mem_calls.2 ⟨_, hmem⟩)
    generalize hr : (Except.error (.error e) : Except Failure ResizeOutcome) = r at start
    cases start with
    | refused refused cluster => exact absurd (mem_calls.2 ⟨_, hmem⟩) (not_replaceClaim_of_isClusterCall cluster claim)
    | @marked opening asking closing time _ _ clock written cluster growth quiet =>
      have hasked : ⟨.call (.replaceClaim ns claim), .error e⟩ ∈ asking := by
        rcases List.mem_append.1 hmem with hmem | hmem
        · refine (List.mem_append.1 hmem).resolve_left fun hmem ↦ ?_
          exact not_replaceClaim_of_isClusterCall cluster claim (mem_calls.2 ⟨_, hmem⟩)
        · have hclosing := mem_calls.2 ⟨_, hmem⟩
          rw [quiet] at hclosing
          cases hclosing
      cases growth with
      | all => cases hr
      | stopped order plain =>
        refine ⟨time, _, ⟨_, _, _, decides⟩, List.mem_append_right _ ?_, ?_, _, _, _, _, order, rfl⟩
        · exact List.mem_append_left _ (List.mem_append_left _ clock)
        · exact Objects.find?_put_of_find? hstored rfl
      | givenUp order gaveUp same hard => cases hsoft.symm.trans (hard claim e hasked)

theorem capacityBytes_withoutSpec (claim : Claim) : capacityBytes claim.withoutSpec = capacityBytes claim := rfl

theorem Interrupted.sameButRequests (h : Interrupted ns c before first time requested between)
    (hdistinct : before.claims.Distinct) : SameButRequests before between := by
  obtain ⟨target, part, next, rest, order, rfl⟩ := h.left
  refine sameButRequests_asked hdistinct (fun claim hclaim ↦ ?_) ⟨rfl, rfl, rfl⟩
  have hlags : claim ∈ lagging requested (usedClaims before ns c) := by
    rw [order]
    exact List.mem_append_left _ hclaim
  exact mem_claims_of_lagging hlags

/-- After an interruption not all claims have the requested bytes: asking does not change what they have. -/
theorem Interrupted.not_grown (h : Interrupted ns c before first time requested between)
    (hdistinct : before.claims.Distinct) :
    ¬∀ claim ∈ usedClaims between ns (c.withResizeMark time.toSecondsText), capacityBytes claim = .ok (some requested) := by
  intro hgrown
  obtain ⟨target, part, next, rest, order, -⟩ := h.left
  have hnext : next ∈ lagging requested (usedClaims before ns c) := by
    rw [order]
    exact List.mem_append_right _ (List.mem_cons_self ..)
  obtain ⟨hused, hlags⟩ := List.mem_filter.1 hnext
  have hmem := List.mem_map_of_mem (f := Claim.withoutSpec) hused
  rw [← (h.sameButRequests hdistinct).map_usedClaims ns (c.name_withResizeMark time.toSecondsText)] at hmem
  obtain ⟨claim, hclaim, hsame⟩ := List.mem_map.1 hmem
  have hcapacity : capacityBytes next = .ok (some requested) := by
    rw [← capacityBytes_withoutSpec, ← hsame, capacityBytes_withoutSpec, hgrown claim hclaim]
  rw [lags_eq_false.2 hcapacity] at hlags
  cases hlags

/-- How far the data claims have come is readable if a pass comes to a decision. -/
theorem Decides.progressOf_ok {claim : Claim} (since : Instant)
    (h : Decides s ns c actual configured configuredBytes requested) (hclaim : claim ∈ usedClaims s ns c) :
    ∃ progress, progressOf s ns requested since claim = .ok progress := by
  obtain ⟨capacity, hcapacity⟩ := h.capacityBytes_ok hclaim
  unfold progressOf claimProgress
  rw [hcapacity]
  exact ⟨_, rfl⟩

/-- Whether a resize that was noted on a cluster has failed, by what a server holds. -/
def FindsFailure (s : Store) (ns : String) (c : Cluster) (requested : Nat) : Prop :=
  ∃ since, ResizeState.ofCluster c = .ok (.inProgress since) ∧ HasFailed s ns requested since (usedClaims s ns c)

/-- A pass that finds the note of a resize and claims that lag behind asks none of them, if no call is refused: it gives the
resize up if that has failed, and leaves everything as it is otherwise. -/
theorem runs_reconcile_of_marked {text : String} {r : Except Failure ResizeOutcome}
    (h : (reconcile settings c).Runs m₁ second r m₁') (hs : s.Serves second t) (hgranted : Store.Granted second)
    (hns : c.metadata.ns? = some ns) (hstored : s.clusters.find? ns c.name = some c)
    (hdecides : Decides s ns c actual configured configuredBytes requested) (hmarked : c.resizeMark? = some text)
    (hgrown : ¬∀ claim ∈ usedClaims s ns c, capacityBytes claim = .ok (some requested)) :
    (∀ claim, .replaceClaim ns claim ∉ calls second) ∧
      ((FindsFailure s ns c requested ∧ ∃ configured, IsRolledBack ns c configured t) ∨
        (¬FindsFailure s ns c requested ∧ t = s ∧ (r = .ok .waiting ∨ ∃ e, ResizeState.ofCluster c = .error e))) := by
  cases (runs_reconcile h hs hns hstored).2 with
  | undecided reads plain why =>
    rcases why with hrefused | hnone
    · exact absurd hrefused hgranted.not_refused
    · exact absurd hdecides (hnone _ _ _ _)
  | unreadable reads fault =>
    refine ⟨not_replaceClaim_of_reads reads, .inr ⟨?_, rfl, .inr ⟨_, fault⟩⟩⟩
    rintro ⟨since, hsince, -⟩
    cases fault.symm.trans hsince
  | noChange _ unmarked | shrink _ unmarked | start _ unmarked => cases hmarked.symm.trans unmarked
  | @followUp first last _ _ _ _ _ requested' since decides marked reads followUp quiet =>
    obtain rfl : requested = requested' := Except.ok.inj (hdecides.requested_eq.symm.trans decides.requested_eq)
    obtain ⟨-, hlast⟩ := Store.granted_append.1 hgranted
    have hfinds (progress : List (String × ClaimProgress))
        (hfound : (usedClaims s ns c).mapM (progressOf s ns requested since) = .ok progress) :
        FindsFailure s ns c requested ↔ ∃ reason, (ResizeState.inProgress since).advance progress = .failed reason := by
      rw [advance_eq_failed_iff hfound]
      constructor
      · rintro ⟨since', hsince', hfailed⟩
        cases marked.symm.trans hsince'
        exact hfailed
      · exact fun hfailed ↦ ⟨since, marked, hfailed⟩
    refine ⟨fun claim hmem ↦ ?_, ?_⟩
    · rcases mem_calls_append.1 hmem with hmem | hmem
      · exact not_replaceClaim_of_reads reads claim hmem
      · exact quiet claim hmem
    cases followUp with
    | failed reads why =>
      rcases why with hrefused | herror
      · exact absurd hrefused hlast.not_refused
      · obtain ⟨claim, hclaim, hfault⟩ := mapM_eq_error herror
        obtain ⟨_, hprogress⟩ := hdecides.progressOf_ok since hclaim
        cases hfault.symm.trans hprogress
    | givenUp found failed gaveUp same =>
      rcases gaveUp with hrefused | ⟨reason, -, hrolled⟩
      · exact absurd hrefused hlast.not_refused
      · exact .inl ⟨(hfinds _ found).2 ⟨_, failed⟩, _, hrolled⟩
    | waiting found going left reads =>
      refine .inr ⟨fun hfailure ↦ ?_, rfl, .inl rfl⟩
      obtain ⟨reason, hfailed⟩ := (hfinds _ found).1 hfailure
      cases going.symm.trans hfailed
    | stopped grown | completed grown => exact absurd grown hgrown

/-- Whether a claim asks for less than the requested bytes. -/
def IsBehind (requested : Nat) (claim : Claim) : Prop :=
  ∃ quantity bytes, claim.request? = some quantity ∧ Quantity.alignedBytes quantity = .ok bytes ∧ bytes < requested

/-- Whether a pass resumes a resize: it asks all claims of pods that are behind, or takes the note back. -/
def Resumes (ns : String) (c : Cluster) (requested : Nat) (before : Store) (es : List Exchange) (after : Store) : Prop :=
  (∀ claim ∈ usedClaims before ns c, IsBehind requested claim →
      ∃ new, .replaceClaim ns new ∈ calls es ∧ new.name = claim.name) ∨
    ∃ stored, after.clusters.find? ns c.name = some stored ∧ stored.resizeMark? = none

/-- The pass after one that was interrupted resumes the resize exactly if no claim is behind or one has failed for good;
otherwise it waits, or cannot read the note, and leaves everything as it is. -/
theorem resumes_iff {e : Error} {claim : Claim} {r : Except Failure ResizeOutcome}
    (h₁ : (reconcile settings c).Runs m₁ first (.error (.error e)) m₁') (hs₁ : before.Serves first between)
    (hstored : before.clusters.find? (Objects.namespaceOf c) c.name = some c) (hdistinct : before.claims.Distinct)
    (hstop : ⟨.call (.replaceClaim (Objects.namespaceOf c) claim), .error e⟩ ∈ first) (hsoft : isHardFailure e = false)
    (hnext : between.clusters.find? (Objects.namespaceOf c) c.name = some next)
    (h₂ : (reconcile settings' next).Runs m₂ second r m₂') (hs₂ : between.Serves second after)
    (hgranted : Store.Granted second) :
    next.resizeMark?.isSome ∧ ∃ requested, Quantity.alignedBytes next.requestedStorage = .ok requested ∧
      (Resumes (Objects.namespaceOf c) next requested between second after ↔
        (∀ claim ∈ usedClaims between (Objects.namespaceOf c) next, ¬IsBehind requested claim) ∨
          FindsFailure between (Objects.namespaceOf c) next requested) ∧
      (¬FindsFailure between (Objects.namespaceOf c) next requested →
        after = between ∧ (r = .ok .waiting ∨ ∃ e, ResizeState.ofCluster next = .error e)) := by
  cases hns : c.metadata.ns? with
  | none =>
    simp only [reconcile, hns] at h₁
    obtain ⟨rfl, -, -⟩ := runs_fail.1 h₁
    cases hstop
  | some ns =>
    have hnamespace : Objects.namespaceOf c = ns := congrArg (Option.getD · "") hns
    rw [hnamespace] at hstored hstop hnext ⊢
    obtain ⟨time, requested, hinterrupted⟩ := interrupted_of_runs h₁ hs₁ hns hstored hstop hsoft
    obtain rfl : next = c.withResizeMark time.toSecondsText := Option.some.inj (hnext.symm.trans hinterrupted.marked)
    obtain ⟨actual, configured, configuredBytes, hdecides⟩ := hinterrupted.decides
    have hagain := hdecides.again (hinterrupted.sameButRequests hdistinct) time.toSecondsText
    have hmark := Cluster.resizeMark?_withResizeMark c time.toSecondsText
    obtain ⟨hquiet, hends⟩ := runs_reconcile_of_marked h₂ hs₂ hgranted hns hnext hagain hmark
      (hinterrupted.not_grown hdistinct)
    refine ⟨by rw [hmark]; rfl, requested, hdecides.requested_eq, ?_, fun hnot ↦ ?_⟩
    · constructor
      · rintro (hasks | ⟨stored, hfound, hunmarked⟩)
        · refine .inl fun claim hclaim hbehind ↦ ?_
          obtain ⟨new, hnew, -⟩ := hasks claim hclaim hbehind
          exact hquiet new hnew
        · rcases hends with ⟨hfails, -⟩ | ⟨-, rfl, -⟩
          · exact .inr hfails
          · obtain rfl := Option.some.inj (hnext.symm.trans hfound)
            cases hmark.symm.trans hunmarked
      · rintro (hnone | hfails)
        · exact .inl fun claim hclaim hbehind ↦ absurd hbehind (hnone claim hclaim)
        · rcases hends with ⟨-, configured, stored, hfound, hunmarked, -⟩ | ⟨hnot, -⟩
          · exact .inr ⟨stored, hfound, hunmarked⟩
          · exact absurd hfails hnot
    · rcases hends with ⟨hfails, -⟩ | ⟨-, hends⟩
      · exact absurd hfails hnot
      · exact hends

/-- The server is out of order for a moment. -/
def outOfOrder : Error := .call (.refused ⟨"Failure", "timeout", "", 500⟩)

theorem isHardFailure_outOfOrder : isHardFailure outOfOrder = false := by decide +kernel

/-- The server refuses to have the claim asked. -/
theorem runs_interrupted : ∃ first, (reconcile .standard growing).Runs () first (.error (.error outOfOrder)) () ∧
    growingStore.Serves first markedStore ∧
      ⟨.call (.replaceClaim "prod" (growingClaim.withRequest "2Gi")), .error outOfOrder⟩ ∈ first := by
  have hgrow : (growClaim .standard "prod" growing "1Gi" 2147483648 growingClaim : Pass Unit Bool).Runs ()
      [⟨.call (.replaceClaim "prod" (growingClaim.withRequest "2Gi")), .error outOfOrder⟩]
      (.error (.error outOfOrder)) () := by
    refine runs_orFail_bind.2 (.inr ⟨some 1073741824, rfl, runs_orOverflow_bind.2 (.inr ⟨"2Gi",
      rfl, runs_attempt_call_bind.2 ⟨.error outOfOrder, [], rfl, ?_⟩⟩)⟩)
    simp only [isHardFailure_outOfOrder, Bool.false_eq_true, if_false]
    exact runs_fail.2 ⟨rfl, rfl, rfl⟩
  have hrun := runs_reconcile_growing (runs_bind.2 (.inr ⟨_, rfl, runs_mapM_cons.2 (.inr ⟨_, rfl, hgrow⟩)⟩))
  refine ⟨_, hrun, serves_growingOpening.2 ?_, List.mem_append_right _ (List.mem_cons_self ..)⟩
  exact Store.serves_error.2 ⟨⟨_, rfl⟩, Store.serves_nil.2 rfl⟩

theorem usedClaims_marked : usedClaims markedStore "prod" growingMarked = [growingClaim] := usedClaims_growing

/-- The next pass waits, and asks no claim. -/
theorem runs_after_interruption : ∃ second,
    (reconcile .standard growingMarked).Runs () second (.ok .waiting) () ∧ markedStore.Serves second markedStore ∧
      Store.Granted second ∧ ∀ claim, .replaceClaim "prod" claim ∉ calls second := by
  have hobserve : (observeClaim "prod" 2147483648 noon growingClaim : Pass Unit (String × ClaimProgress)).Runs ()
      [⟨.call (.listEvents "prod" "datadir-db-pxc-0"), .ok []⟩] (.ok ("datadir-db-pxc-0", .pending)) () :=
    runs_call_bind.2 (.inr ⟨[], [], rfl, runs_orFail_bind.2 (.inr ⟨.pending, by decide +kernel,
      runs_pure.2 ⟨rfl, rfl, rfl⟩⟩)⟩)
  have hfollowUp : (followUp .standard "prod" growingMarked [growingClaim] "1Gi" 2147483648 noon :
      Pass Unit ResizeOutcome).Runs () [⟨.call (.listEvents "prod" "datadir-db-pxc-0"), .ok []⟩] (.ok .waiting) () :=
    runs_bind.2 (.inl ⟨[_], [], [("datadir-db-pxc-0", .pending)], (), rfl, runs_mapM_cons.2 (.inl ⟨[_], [], _, (), .ok [],
      rfl, hobserve, runs_mapM_nil.2 ⟨rfl, rfl, rfl⟩, rfl⟩), runs_pure.2 ⟨rfl, rfl, rfl⟩⟩)
  have hsame : SameButRequests growingStore markedStore := ⟨rfl, rfl, rfl⟩
  have hagain : Decides markedStore "prod" growingMarked 1073741824 "1Gi" 1073741824 2147483648 :=
    decides_growing.again hsame noon.toSecondsText
  have hread : ResizeState.ofCluster growingMarked = .ok (.inProgress noon) := rfl
  have hdecide : (decideOn .standard "prod" growingMarked [growingClaim] 1073741824 "1Gi" :
      Pass Unit ResizeOutcome).Runs () [⟨.call (.listEvents "prod" "datadir-db-pxc-0"), .ok []⟩] (.ok .waiting) () := by
    refine runs_orFail_bind.2 (.inr ⟨1073741824, hagain.configuredBytes_eq,
      runs_orFail_bind.2 (.inr ⟨2147483648, hagain.requested_eq, ?_⟩)⟩)
    rw [hread]
    exact hfollowUp
  have hrun := runs_reconcile_of_decides (c := growingMarked) rfl hagain (by rw [usedClaims_marked]; exact hdecide)
  refine ⟨_, hrun, serves_reading.2 (Store.serves_ok.2 ⟨rfl, rfl⟩), ?_, ?_⟩
  · exact Store.granted_append.2 ⟨granted_reading, Store.granted_ok⟩
  · simp [reading]

/-- A resize that was interrupted is not resumed: the next pass waits for a claim that nobody asked to grow. -/
theorem not_resumes_growing : ∃ first second,
    (reconcile .standard growing).Runs () first (.error (.error outOfOrder)) () ∧
      growingStore.Serves first markedStore ∧
      ⟨.call (.replaceClaim "prod" (growingClaim.withRequest "2Gi")), .error outOfOrder⟩ ∈ first ∧
      isHardFailure outOfOrder = false ∧
      (reconcile .standard growingMarked).Runs () second (.ok .waiting) () ∧
      markedStore.Serves second markedStore ∧ Store.Granted second ∧
      ¬Resumes "prod" growingMarked 2147483648 markedStore second markedStore := by
  obtain ⟨first, hfirst, hserves, hstop⟩ := runs_interrupted
  obtain ⟨second, hsecond, hserves', hgranted, hquiet⟩ := runs_after_interruption
  refine ⟨first, second, hfirst, hserves, hstop, isHardFailure_outOfOrder, hsecond, hserves', hgranted, ?_⟩
  rintro (hasks | ⟨stored, hfound, hunmarked⟩)
  · have hbehind : IsBehind 2147483648 growingClaim :=
      ⟨"1Gi", 1073741824, by decide +kernel, by decide +kernel, by decide⟩
    obtain ⟨new, hnew, -⟩ := hasks growingClaim (by simp [usedClaims_marked]) hbehind
    exact hquiet new hnew
  · have hmarked : markedStore.clusters.find? "prod" "db" = some growingMarked := by decide +kernel
    obtain rfl := Option.some.inj (hmarked.symm.trans hfound)
    cases (Cluster.resizeMark?_withResizeMark growing _).symm.trans hunmarked

/-- The pass after the interruption of the growing cluster resumes nothing, as no claim failed. -/
theorem resumes_iff_growing : ∃ first second,
    (reconcile .standard growing).Runs () first (.error (.error outOfOrder)) () ∧
      (reconcile .standard growingMarked).Runs () second (.ok .waiting) () ∧
      ∃ requested, Quantity.alignedBytes "2Gi" = .ok requested ∧
        (Resumes "prod" growingMarked requested markedStore second markedStore ↔
          (∀ claim ∈ usedClaims markedStore "prod" growingMarked, ¬IsBehind requested claim) ∨
            FindsFailure markedStore "prod" growingMarked requested) := by
  obtain ⟨first, hfirst, hserves, hstop⟩ := runs_interrupted
  obtain ⟨second, hsecond, hserves', hgranted, -⟩ := runs_after_interruption
  obtain ⟨-, requested, hrequested, hiff, -⟩ := resumes_iff hfirst hserves (by decide +kernel)
    (List.pairwise_singleton ..) hstop isHardFailure_outOfOrder (by decide +kernel) hsecond hserves' hgranted
  exact ⟨first, second, hfirst, hsecond, requested, hrequested, hiff⟩

end Volume

end GaleraOperator
