import GaleraOperator.Proofs.Undisturbed
import GaleraOperator.Proofs.Volume.Interruption

/-!
# Clusters that ask for what they were made with

A pass over a cluster without a note that asks for as much as its StatefulSet was made with has no resize to start. It
leaves the cluster alone if the least capacity is not more than that. If all claims were given more than they asked for,
however, the request is taken for one to make them smaller, and refused. A resize that was rolled back leaves such a
cluster, and as long as one claim has not grown the next pass leaves it at rest.
-/

namespace GaleraOperator.Volume

open Kube Pass

variable {σ τ : Type} {m m' m₁ m₁' : σ} {m₂ m₂' : τ} {es first second : List Exchange}
  {s t before between again after : Store} {ns : String} {c held next : Cluster} {settings settings' : Settings}
  {configured reason requestedText actualText : String} {bytes requested actual configuredBytes : Nat}

/-- A cluster without a note asks for as much as its StatefulSet was made with, in whole allocation units. -/
structure AsksForConfigured (s : Store) (ns : String) (c : Cluster) (configured : String) (bytes : Nat) : Prop where
  unmarked : c.resizeMark? = none
  template : IsConfigured s ns c configured
  configured_eq : Quantity.alignedBytes configured = .ok bytes
  requested_eq : Quantity.alignedBytes c.requestedStorage = .ok bytes

/-- The least capacity is not more than some bytes, or there is none to compare them with. -/
def LeastFits (s : Store) (ns : String) (c : Cluster) (bytes : Nat) : Prop :=
  usedClaims s ns c = [] ∨ leastCapacity (dataClaims s ns c) = .ok none ∨
    ∃ actual ≤ bytes, leastCapacity (dataClaims s ns c) = .ok (some actual)

/-- A pass says that there was nothing to do, and has written nothing. -/
def LeftAlone (es : List Exchange) (r : Except Failure ResizeOutcome) : Prop := r = .ok .noChange ∧ Reads es

/-- Refusing to make volumes smaller sets the storage and tells of both amounts, unless a call is refused. -/
theorem refuseShrink_texts {r : Except Failure ResizeOutcome}
    (h : (refuseShrink settings ns c configured requested actual).Runs m es r m') (hs : s.Serves es t)
    (hheld : s.clusters.find? ns c.name = some held) (hrequested : Quantity.ofBytes requested = .ok requestedText)
    (hactual : Quantity.ofBytes actual = .ok actualText) :
    Store.Refused es r ∨ (r = .error (.error (.shrink requestedText actualText)) ∧
      t.clusters.find? ns c.name = some ((setStorage configured held).getD held)) := by
  rcases runs_bind.1 h with ⟨es₁, es₂, _, m₁, rfl, hstorage, hrest⟩ | ⟨f, rfl, hstorage⟩
  · obtain ⟨u, hs₁, hs₂⟩ := Store.serves_append.1 hs
    obtain ⟨-, -, -, ⟨hrefused, -⟩ | ⟨-, hstored⟩⟩ := changeCluster_held hstorage hs₁ (fun _ ↦ setStorage_keeps) hheld
    · exact absurd hrefused Store.not_refused_ok
    rw [hrequested, hactual] at hrest
    obtain ⟨rfl, rfl, -⟩ := runs_fail.1 hrest
    obtain rfl : t = u := hs₂
    exact .inr ⟨rfl, hstored⟩
  · obtain ⟨-, -, -, ⟨hrefused, -⟩ | ⟨hr, -⟩⟩ := changeCluster_held hstorage hs (fun _ ↦ setStorage_keeps) hheld
    · exact .inl hrefused.error
    · cases hr

/-- What a pass over a cluster comes to that asks for what it was made with. -/
inductive Compared (s : Store) (ns : String) (c held : Cluster) (configured : String) (bytes : Nat)
    (es : List Exchange) : Except Failure ResizeOutcome → Store → Prop where
  | undecided {r : Except Failure ResizeOutcome} (why : Undecided s ns c es r) (reads : Reads es) :
      Compared s ns c held configured bytes es r s
  | left {actual : Nat} (finds : Finds s ns c actual configured) (le : actual ≤ bytes) (reads : Reads es) :
      Compared s ns c held configured bytes es (.ok .noChange) s
  | interrupted {actual : Nat} {r : Except Failure ResizeOutcome} {t : Store} (finds : Finds s ns c actual configured)
      (lt : bytes < actual) (refused : Store.Refused es r) : Compared s ns c held configured bytes es r t
  | shrink {actual : Nat} {requestedText actualText : String} {t : Store} (finds : Finds s ns c actual configured)
      (lt : bytes < actual) (requested_eq : Quantity.ofBytes bytes = .ok requestedText)
      (actual_eq : Quantity.ofBytes actual = .ok actualText)
      (stored : t.clusters.find? ns c.name = some ((setStorage configured held).getD held)) :
      Compared s ns c held configured bytes es (.error (.error (.shrink requestedText actualText))) t

/-- A pass finds the request of one StatefulSet. -/
theorem Finds.configured_eq {configured' : String} (h : Finds s ns c actual configured')
    (hconfigured : IsConfigured s ns c configured) : configured' = configured := by
  obtain ⟨set, hset, hrequest⟩ := h.template
  obtain ⟨set', hset', hrequest'⟩ := hconfigured
  obtain rfl := Option.some.inj (hset.symm.trans hset')
  exact Option.some.inj (hrequest.symm.trans hrequest')

theorem compared_of_runs {r : Except Failure ResizeOutcome} (h : (reconcile settings c).Runs m es r m')
    (hs : s.Serves es t) (hns : c.metadata.ns? = some ns) (hheld : s.clusters.find? ns c.name = some held)
    (hasks : AsksForConfigured s ns c configured bytes) : Compared s ns c held configured bytes es r t := by
  rcases runs_reconcile_undecided h hs hns with
    ⟨-, rfl, hreads, hwhy⟩ | ⟨first, rest, actual, configured', rfl, hreads, hfinds, hserves, hdecide⟩
  · exact .undecided hwhy hreads
  obtain rfl := hfinds.configured_eq hasks.template
  simp only [decideOn, hasks.configured_eq, hasks.requested_eq, ofCluster_of_unmarked hasks.unmarked] at hdecide
  by_cases hlt : bytes < actual
  · obtain ⟨requestedText, hrequested⟩ := Quantity.ofBytes_of_alignedBytes hasks.requested_eq
    obtain ⟨actualText, hactual⟩ := ofBytes_of_leastCapacity hfinds.least
    have hshrink : (refuseShrink settings ns c configured' bytes actual).Runs m rest r m' := by
      simpa [orFail, hlt] using hdecide
    rcases refuseShrink_texts hshrink hserves hheld hrequested hactual with hrefused | ⟨rfl, hstored⟩
    · exact .interrupted hfinds hlt (hrefused.append first)
    · exact .shrink hfinds hlt hrequested hactual hstored
  · have hleft : (pure .noChange : Pass σ ResizeOutcome).Runs m rest r m' := by
      simpa [orFail, hlt] using hdecide
    obtain ⟨rfl, rfl, -⟩ := runs_pure.1 hleft
    obtain rfl : t = s := hserves
    exact .left hfinds (Nat.not_lt.1 hlt) (by simpa using hreads)

/-- Which clusters are left alone that ask for what they were made with, if no call is refused: those whose least
capacity is not more than that. Where it is more, the pass refuses to make the volumes smaller, and sets the storage to
what the cluster was made with, so that the next pass is about the same again. -/
theorem leftAlone_iff_leastFits {r : Except Failure ResizeOutcome} (h : (reconcile settings c).Runs m es r m')
    (hs : s.Serves es t) (hgranted : Store.Granted es) (hns : c.metadata.ns? = some ns)
    (hheld : s.clusters.find? ns c.name = some held) (hasks : AsksForConfigured s ns c configured bytes) :
    (LeftAlone es r ↔ LeastFits s ns c bytes) ∧
      ∀ actual, usedClaims s ns c ≠ [] → leastCapacity (dataClaims s ns c) = .ok (some actual) → bytes < actual →
        ∃ requestedText actualText, Quantity.ofBytes bytes = .ok requestedText ∧
          Quantity.ofBytes actual = .ok actualText ∧ r = .error (.error (.shrink requestedText actualText)) ∧
          ∃ after, t.clusters.find? ns c.name = some after ∧ after.requestedStorage = configured ∧
            after.resizeMark? = held.resizeMark? := by
  have hexceeds {least actual : Nat} (hle : least ≤ bytes) (hlt : bytes < actual)
      (hleast : leastCapacity (dataClaims s ns c) = .ok (some least)) :
      leastCapacity (dataClaims s ns c) ≠ .ok (some actual) := by
    intro hactual
    cases hleast.symm.trans hactual
    omega
  cases compared_of_runs h hs hns hheld hasks with
  | undecided why reads =>
    cases why with
    | refused refused => exact absurd refused hgranted.not_refused
    | unused unused => exact ⟨iff_of_true ⟨rfl, reads⟩ (.inl unused), fun _ hused ↦ absurd unused hused⟩
    | unreadable used fault =>
      refine ⟨iff_of_false (fun hleft ↦ by cases hleft.1) ?_, fun _ _ hleast ↦ by cases fault.symm.trans hleast⟩
      rintro (hunused | hunknown | ⟨_, -, hleast⟩)
      · exact used hunused
      · cases fault.symm.trans hunknown
      · cases fault.symm.trans hleast
    | unknown unknown =>
      exact ⟨iff_of_true ⟨rfl, reads⟩ (.inr (.inl unknown)), fun _ _ hleast ↦ by cases unknown.symm.trans hleast⟩
    | unset unset =>
      obtain ⟨set, hset, hconfigured⟩ := hasks.template
      cases (unset set hset).symm.trans hconfigured
  | @left least finds le reads =>
    exact ⟨iff_of_true ⟨rfl, reads⟩ (.inr (.inr ⟨least, le, finds.least⟩)),
      fun _ _ hactual hlt ↦ absurd hactual (hexceeds le hlt finds.least)⟩
  | interrupted finds lt refused => exact absurd refused hgranted.not_refused
  | @shrink least requestedText actualText _ finds lt requested_eq actual_eq stored =>
    refine ⟨iff_of_false (fun hleft ↦ by cases hleft.1) ?_, fun actual _ hactual _ ↦ ?_⟩
    · rintro (hunused | hunknown | ⟨_, hle, hfits⟩)
      · exact finds.used hunused
      · cases finds.least.symm.trans hunknown
      · exact hexceeds hle lt hfits finds.least
    · cases finds.least.symm.trans hactual
      exact ⟨_, _, requested_eq, actual_eq, rfl, _, stored, (setStorage_getD held).1, (setStorage_getD held).2⟩

/-- A cluster that asks for what its StatefulSet was made with. -/
private def content : Cluster := growing.withStorage "1Gi"

/-- A server that has the cluster, and gave its claim more than the claim asked for. -/
private def generousStore : Store :=
  { growingStore with
    clusters := [content]
    claims := [{ growingClaim with status := some ⟨some (.ofList [("storage", "2Gi")]), none, []⟩ }] }

private theorem volumes_content : dataClaims generousStore "prod" content = generousStore.claims ∧
    usedClaims generousStore "prod" content = generousStore.claims := volumes_of_onlyClaim rfl rfl rfl rfl

private theorem decides_content : Decides generousStore "prod" content 2147483648 "1Gi" 1073741824 1073741824 where
  used := by
    rw [volumes_content.2]
    exact List.cons_ne_nil _ _
  least := by
    rw [volumes_content.1]
    rfl
  template := decides_growing.template
  configuredBytes_eq := decides_growing.configuredBytes_eq
  requested_eq := decides_growing.configuredBytes_eq

private theorem asksForConfigured_content :
    AsksForConfigured generousStore "prod" content "1Gi" 1073741824 where
  unmarked := by decide
  template := decides_content.template
  configured_eq := decides_content.configuredBytes_eq
  requested_eq := decides_content.requested_eq

/-- The pass sees that the storage is already what it would be set to, and refuses all the same. -/
private theorem runs_reconcile_content : ∃ es,
    (reconcile .standard content).Runs () es (.error (.error (.shrink "1Gi" "2Gi"))) () ∧
      generousStore.Serves es generousStore ∧ Store.Granted es := by
  have hfetch : (fetchCluster "prod" "db" : Pass Unit Cluster).Runs ()
      [⟨.call (.getCluster "prod" "db"), .ok (some content)⟩] (.ok content) () :=
    runs_call_bind.2 (.inr ⟨some content, [], rfl, runs_pure.2 ⟨rfl, rfl, rfl⟩⟩)
  have hstorage : (changeCluster .standard "prod" "db" (setStorage "1Gi") : Pass Unit Unit).Runs ()
      [⟨.call (.getCluster "prod" "db"), .ok (some content)⟩] (.ok ()) () := by
    refine Runs.retryOnConflict_ok (runs_bind.2 (.inl ⟨[_], [], content, (), rfl, hfetch, ?_⟩))
    exact runs_pure.2 ⟨rfl, rfl, rfl⟩
  have hrefuse : (refuseShrink .standard "prod" content "1Gi" 1073741824 2147483648 : Pass Unit ResizeOutcome).Runs ()
      [⟨.call (.getCluster "prod" "db"), .ok (some content)⟩] (.error (.error (.shrink "1Gi" "2Gi"))) () := by
    refine runs_bind.2 (.inl ⟨[_], [], (), (), rfl, hstorage, ?_⟩)
    refine runs_orOverflow_bind.2 (.inr ⟨"1Gi", rfl, runs_orOverflow_bind.2 (.inr ⟨"2Gi", rfl, ?_⟩)⟩)
    exact runs_fail.2 ⟨rfl, rfl, rfl⟩
  have hdecide : (decideOn .standard "prod" content (usedClaims generousStore "prod" content) 2147483648 "1Gi" :
      Pass Unit ResizeOutcome).Runs () [⟨.call (.getCluster "prod" "db"), .ok (some content)⟩]
      (.error (.error (.shrink "1Gi" "2Gi"))) () :=
    runs_orFail_bind.2 (.inr ⟨1073741824, decides_content.configuredBytes_eq,
      runs_orFail_bind.2 (.inr ⟨1073741824, decides_content.requested_eq, hrefuse⟩)⟩)
  refine ⟨_, runs_reconcile_of_decides rfl decides_content hdecide, ?_, ?_⟩
  · exact serves_reading.2 (Store.serves_ok.2 ⟨rfl, rfl⟩)
  · exact Store.granted_append.2 ⟨granted_reading, Store.granted_ok⟩

/-- A cluster is not left alone that asks for what it was made with, where its claim was given more. -/
theorem not_leftAlone_content : ∃ es,
    (reconcile .standard content).Runs () es (.error (.error (.shrink "1Gi" "2Gi"))) () ∧
      generousStore.Serves es generousStore ∧ Store.Granted es ∧
      AsksForConfigured generousStore "prod" content "1Gi" 1073741824 ∧
      ¬LeftAlone es (.error (.error (.shrink "1Gi" "2Gi"))) := by
  obtain ⟨es, hrun, hserves, hgranted⟩ := runs_reconcile_content
  exact ⟨es, hrun, hserves, hgranted, asksForConfigured_content, fun hleft ↦ by cases hleft.1⟩

/-- The least capacity of the volumes of the cluster is more than it was made with. -/
theorem leftAlone_iff_leastFits_content : ∃ es,
    (reconcile .standard content).Runs () es (.error (.error (.shrink "1Gi" "2Gi"))) () ∧
      generousStore.Serves es generousStore ∧ Store.Granted es ∧
      ¬LeastFits generousStore "prod" content 1073741824 := by
  obtain ⟨es, hrun, hserves, hgranted⟩ := runs_reconcile_content
  refine ⟨es, hrun, hserves, hgranted, fun hfits ↦ ?_⟩
  have hleft := (leftAlone_iff_leastFits hrun hserves hgranted rfl rfl asksForConfigured_content).1.2 hfits
  cases hleft.1

/-- What a pass leaves that has given a resize up. -/
structure GivenUp (ns : String) (c : Cluster) (configured : String) (before between : Store) : Prop where
  decides : ∃ actual configuredBytes requested, Decides before ns c actual configured configuredBytes requested
  rolledBack : IsRolledBack ns c configured between
  /-- Claims were asked for more at most. -/
  same : before.claims.Distinct → SameButRequests before between

theorem SameButRequests.trans (h : SameButRequests s t) (h' : SameButRequests t after) : SameButRequests s after :=
  ⟨h'.claims.trans h.claims, h'.pods.trans h.pods, h'.statefulSets.trans h.statefulSets⟩

theorem SameButRequests.of_sameButClusters (h : SameButRequests s t) (hsame : t.SameButClusters after) :
    SameButRequests s after := by
  rw [hsame]
  exact ⟨h.claims, h.pods, h.statefulSets⟩

/-- A rollback that ends with the failure of the resize was let happen. -/
theorem GaveUp.isRolledBack {α : Type} (h : GaveUp (α := α) ns c configured es (.error (.error (.resize reason))) t) :
    IsRolledBack ns c configured t := by
  rcases h with ⟨_, _, _, hr⟩ | ⟨_, -, hrolled⟩
  · cases hr
  · exact hrolled

/-- A pass ends with the failure of a resize only if it has given it up. -/
theorem givenUp_of_runs (h : (reconcile settings c).Runs m first (.error (.error (.resize reason))) m')
    (hs : before.Serves first between) (hns : c.metadata.ns? = some ns)
    (hheld : before.clusters.find? ns c.name = some held) : ∃ configured, GivenUp ns c configured before between := by
  generalize hr : (.error (.error (.resize reason)) : Except Failure ResizeOutcome) = r at h
  cases (runs_reconcile h hs hns hheld).2 with
  | undecided reads plain why =>
    rcases plain with rfl | ⟨f, rfl, hf⟩
    · cases hr
    · cases hr
      cases hf
  | unreadable reads fault =>
    cases hr
    cases not_isVerdict_of_ofCluster fault
  | noChange => cases hr
  | followUp decides marked reads followUp quiet =>
    cases followUp with
    | failed reads why =>
      cases hr
      rcases why with hrefused | herror
      · cases hrefused.not_isVerdict
      · obtain ⟨claim, -, hclaim⟩ := mapM_eq_error herror
        cases not_isVerdict_of_progressOf hclaim
    | givenUp found failed gaveUp same =>
      cases hr
      exact ⟨_, ⟨_, _, _, decides⟩, gaveUp.isRolledBack, fun _ ↦ SameButRequests.of_sameButClusters ⟨rfl, rfl, rfl⟩ same⟩
    | waiting | completed => cases hr
    | stopped grown refused =>
      cases hr
      cases refused.not_isVerdict
  | shrink decides unmarked lt reads shrink cluster =>
    cases shrink with
    | refused refused =>
      cases hr
      cases refused.not_isVerdict
    | reset verdict stored same =>
      cases hr
      rcases verdict with hf | ⟨_, _, hf⟩ <;> cases hf
  | start decides unmarked ge ne reads asks start =>
    cases start with
    | refused refused cluster =>
      cases hr
      cases refused.not_isVerdict
    | @marked opening asking closing time asked _ clock written cluster growth quiet =>
      cases growth with
      | all => cases hr
      | stopped order plain =>
        cases hr
        cases plain
      | givenUp initial gaveUp same hard =>
        cases hr
        refine ⟨_, ⟨_, _, _, decides⟩, gaveUp.isRolledBack, fun hdistinct ↦ ?_⟩
        refine (sameButRequests_asked hdistinct (fun claim hclaim ↦ ?_) ⟨rfl, rfl, rfl⟩).of_sameButClusters same
        exact mem_claims_of_lagging (initial.subset hclaim)

/-- A resize that has failed reaches a rest. Provided that the least capacity is not more than what the cluster was made
with, the next pass over what is stored of it finds nothing to do and writes nothing, whatever is refused, as long as
the claims are the same but for what they ask for, and so are the pods and the StatefulSet. -/
theorem rests_after_rollBack {r : Except Failure ResizeOutcome}
    (h₁ : (reconcile settings c).Runs m₁ first (.error (.error (.resize reason))) m₁') (hs₁ : before.Serves first between)
    (hns : c.metadata.ns? = some ns) (hheld : before.clusters.find? ns c.name = some held)
    (hdistinct : before.claims.Distinct) (htemplate : IsConfigured before ns c configured)
    (hconfigured : Quantity.alignedBytes configured = .ok configuredBytes)
    (hleast : leastCapacity (dataClaims before ns c) = .ok (some actual)) (hle : actual ≤ configuredBytes)
    (hnext : between.clusters.find? ns c.name = some next) (hplace : next.name = c.name ∧ next.metadata.ns? = some ns)
    (hagain : again.clusters.find? ns c.name = some next) (hsame : SameButRequests between again)
    (h₂ : (reconcile settings' next).Runs m₂ second r m₂') (hs₂ : again.Serves second after) :
    after = again ∧ Reads second ∧ (r = .ok .noChange ∨ Store.Refused second r) := by
  obtain ⟨configured', ⟨_, _, _, hdecides⟩, ⟨stored, hstored, hunmarked, hstorage⟩, hbetween⟩ :=
    givenUp_of_runs h₁ hs₁ hns hheld
  obtain rfl := Option.some.inj (hstored.symm.trans hnext)
  obtain rfl := hdecides.finds.configured_eq htemplate
  obtain ⟨hname, hnextNs⟩ := hplace
  have hfinds := ((hbetween hdistinct).trans hsame).finds hname hdecides.finds
  have hactual : leastCapacity (dataClaims again ns stored) = .ok (some actual) := by
    cases hdecides.least.symm.trans hleast
    exact hfinds.least
  have hasks : AsksForConfigured again ns stored configured' configuredBytes :=
    ⟨hunmarked, hfinds.template, hconfigured, by rw [hstorage, hconfigured]⟩
  rw [← hname] at hagain
  have hexceeds {least : Nat} (h : Finds again ns stored least configured') (hlt : configuredBytes < least) : False := by
    cases h.least.symm.trans hactual
    omega
  cases compared_of_runs h₂ hs₂ hnextNs hagain hasks with
  | undecided why reads =>
    refine ⟨rfl, reads, ?_⟩
    cases why with
    | refused refused => exact .inr refused
    | unreadable used fault => cases fault.symm.trans hactual
    | unused | unknown | unset => exact .inl rfl
  | left finds le reads => exact ⟨rfl, reads, .inl rfl⟩
  | interrupted finds lt | shrink finds lt => exact (hexceeds finds lt).elim

/-- A refusal that tells of a quota is final. -/
theorem isHardFailure_of_quota {refusal : Refusal} (h : Text.contains refusal.message "exceeded quota" = true) :
    isHardFailure (.call (.refused refusal)) = true := by
  refine Bool.or_eq_true_iff.2 (.inl (Text.contains_append_left _ ?_))
  unfold CallFault.message Refusal.wording
  -- The message is the second of the twelve parts of the wording.
  iterate 11 refine Text.contains_append_right _ ?_
  exact Text.contains_append_left _ h

/-- The server has no quota left for the claim. -/
private def outOfQuota : Error := .call (.refused ⟨"Failure", "exceeded quota", "Forbidden", 403⟩)

private theorem isHardFailure_outOfQuota : isHardFailure outOfQuota = true := isHardFailure_of_quota (by decide +kernel)

/-- How the resize is given up. -/
private def givingUp (reason : String) : Pass Unit Bool := rollBack .standard "prod" growing "1Gi" reason

private theorem givingUp_end (reason : String) :
    ((givingUp reason).runIn (Store.surroundings noon) () markedStore).1 = (.error (.error (.resize reason)), ()) ∧
      ((givingUp reason).runIn (Store.surroundings noon) () markedStore).2.clusters.find? "prod" "db" =
        some (growingMarked.withStorage "1Gi").withoutResizeMark :=
  ⟨rfl, rfl⟩

/-- The pass starts a resize that the server has no room for, and gives it up. -/
private theorem runs_refused : ∃ es between,
    (reconcile .standard growing).Runs () es (.error (.error (.resize outOfQuota.message))) () ∧
      growingStore.Serves es between ∧
      between.clusters.find? "prod" "db" = some (growingMarked.withStorage "1Gi").withoutResizeMark := by
  have hrollBack := runs_courseIn (givingUp outOfQuota.message) (Store.surroundings noon) () markedStore
  rw [(givingUp_end _).1] at hrollBack
  have hgrow : (growClaim .standard "prod" growing "1Gi" 2147483648 growingClaim : Pass Unit Bool).Runs ()
      (⟨.call (.replaceClaim "prod" (growingClaim.withRequest "2Gi")), .error outOfQuota⟩ ::
        (givingUp outOfQuota.message).courseIn (Store.surroundings noon) () markedStore)
      (.error (.error (.resize outOfQuota.message))) () := by
    refine runs_orFail_bind.2 (.inr ⟨some 1073741824, rfl, runs_orOverflow_bind.2 (.inr ⟨"2Gi", rfl,
      runs_attempt_call_bind.2 ⟨.error outOfQuota, _, rfl, ?_⟩⟩)⟩)
    simp only [isHardFailure_outOfQuota, if_true]
    exact hrollBack
  have hrun := runs_reconcile_growing (runs_bind.2 (.inr ⟨_, rfl, runs_mapM_cons.2 (.inr ⟨_, rfl, hgrow⟩)⟩))
  refine ⟨_, _, hrun, serves_growingOpening.2 (Store.serves_cons.2 ⟨markedStore, ?_, ?_⟩),
    (givingUp_end outOfQuota.message).2⟩
  · exact .inl ⟨_, rfl, rfl⟩
  · exact Store.serves_course noon _ _

/-- The next pass over the cluster finds nothing to do. -/
theorem rests_after_rollBack_growing : ∃ first between next second,
    (reconcile .standard growing).Runs () first (.error (.error (.resize outOfQuota.message))) () ∧
      growingStore.Serves first between ∧ between.clusters.find? "prod" "db" = some next ∧
      (reconcile .standard next).Runs () second (.ok .noChange) () ∧ between.Serves second between ∧ Reads second := by
  obtain ⟨first, between, hfirst, hserves, hnext⟩ := runs_refused
  let next := (growingMarked.withStorage "1Gi").withoutResizeMark
  have hsecond := runs_courseIn (reconcile .standard next) (Store.surroundings noon) () between
  obtain ⟨hserves₂, hgranted⟩ := Store.granted_of_gives (Interaction.gives_course (Store.surroundings noon)
    ((reconcile .standard next).run.run ()) between)
  obtain ⟨hafter, hreads, hr⟩ := rests_after_rollBack hfirst hserves rfl rfl (List.pairwise_singleton _ _)
    decides_growing.template decides_growing.configuredBytes_eq decides_growing.least le_rfl hnext ⟨rfl, rfl⟩ hnext
    ⟨rfl, rfl, rfl⟩ hsecond hserves₂
  rw [hr.resolve_right hgranted.not_refused] at hsecond
  rw [hafter] at hserves₂
  exact ⟨first, between, next, _, hfirst, hserves, hnext, hsecond, hserves₂, hreads⟩

end GaleraOperator.Volume
