import GaleraOperator.Proofs.Volume.Growth

/-!
# Following up a resize

A pass that finds the note of a resize looks at how far the claims have come, and then waits, gives up or brings the resize
to its end. What it decides depends on the server's claims and events alone.
-/

namespace GaleraOperator

open Kube

theorem ClaimProgress.scan_ne_done {progress : ClaimProgress} (h : progress ≠ .done) (events : List Event) :
    scan progress events ≠ .done := by
  induction events generalizing progress with
  | nil => exact h
  | cons event events ih =>
    unfold scan
    split
    · simp
    · split
      · exact ih (by simp)
      · exact ih h

/-- A claim is done exactly if it has the requested bytes. -/
theorem claimProgress_eq_done {claim : Claim} {requested : Nat} {events : List Event} {started : Instant} :
    claimProgress claim requested events started = .ok .done ↔ capacityBytes claim = .ok (some requested) := by
  unfold claimProgress
  cases capacityBytes claim with
  | error f => simp [Except.map]
  | ok capacity =>
    simp only [Except.map, Except.ok.injEq]
    constructor
    · intro h
      split at h
      · assumption
      · exact absurd h (ClaimProgress.scan_ne_done (by split <;> simp) _)
    · rintro rfl
      simp

theorem ResizeState.advance_inProgress (started : Instant) (claims : List (String × ClaimProgress)) :
    (inProgress started).advance claims = .inProgress started ∨
      ∃ reason, (inProgress started).advance claims = .failed reason := by
  unfold advance
  split
  · exact .inl rfl
  · split
    · exact .inl rfl
    · exact .inr ⟨_, rfl⟩

/-- A resize has failed exactly if a claim has and none of them moves. -/
theorem ResizeState.advance_eq_failed_iff {started : Instant} {claims : List (String × ClaimProgress)} :
    (∃ reason, (inProgress started).advance claims = .failed reason) ↔
      (∃ claim ∈ claims, ∃ note, claim.2 = .failed note) ∧ ∀ claim ∈ claims, claim.2 ≠ .inProgress := by
  unfold advance
  by_cases hmoves : claims.any (·.2 = .inProgress) = true
  · simp only [hmoves, if_true, reduceCtorEq, exists_false, false_iff, not_and]
    intro _ hnone
    obtain ⟨claim, hclaim, hprogress⟩ := List.any_eq_true.1 hmoves
    exact hnone claim hclaim (of_decide_eq_true hprogress)
  · have hnone : ∀ claim ∈ claims, claim.2 ≠ .inProgress := fun claim hclaim hprogress ↦
      hmoves (List.any_eq_true.2 ⟨claim, hclaim, decide_eq_true hprogress⟩)
    rw [if_neg hmoves, and_iff_left hnone]
    split
    · next hnil =>
      simp only [reduceCtorEq, exists_false, false_iff]
      rintro ⟨⟨name, progress⟩, hclaim, note, rfl⟩
      cases List.filterMap_eq_nil_iff.1 hnil _ hclaim
    · next failures hcons =>
      refine iff_of_true ⟨_, rfl⟩ ?_
      obtain ⟨text, htext⟩ := List.exists_mem_of_ne_nil _ hcons
      obtain ⟨⟨name, progress⟩, hclaim, hfailure⟩ := List.mem_filterMap.1 htext
      cases progress with
      | failed note => exact ⟨_, hclaim, note, rfl⟩
      | done | inProgress | pending => cases hfailure

namespace Volume

variable {σ : Type} {m m' : σ} {es : List Exchange} {s t : Store} {ns : String} {c held : Cluster} {requested : Nat}
  {settings : Settings} {configured : String} {started : Instant} {claims : List Claim}

open Pass

/-- How far a claim has come, by what a server holds. -/
def progressOf (s : Store) (ns : String) (requested : Nat) (started : Instant) (claim : Claim) :
    Except Failure (String × ClaimProgress) :=
  (claimProgress claim requested (s.perform (.listEvents ns claim.name)).1 started).map (claim.name, ·)

theorem runs_observeClaim {claim : Claim} {r : Except Failure (String × ClaimProgress)}
    (h : (observeClaim ns requested started claim).Runs m es r m') (hs : s.Serves es t) :
    m' = m ∧ Reads es ∧ (Store.Refused es r ∨ r = progressOf s ns requested started claim) := by
  rcases runs_call_bind.1 h with ⟨e, rfl, rfl, rfl⟩ | ⟨events, rest, rfl, hrest⟩
  · obtain ⟨⟨fault, rfl⟩, -⟩ := Store.serves_error.1 hs
    exact ⟨rfl, by simp [Call.isWrite], .inl Store.refused_self⟩
  · obtain ⟨rfl, -⟩ := Store.serves_ok.1 hs
    rcases runs_orFail_bind.1 hrest with ⟨f, hf, rfl, rfl, rfl⟩ | ⟨progress, hprogress, hend⟩
    · exact ⟨rfl, by simp [Call.isWrite], .inr (by simp [progressOf, hf, Except.map])⟩
    · obtain ⟨rfl, rfl, rfl⟩ := runs_pure.1 hend
      exact ⟨rfl, by simp [Call.isWrite], .inr (by simp [progressOf, hprogress, Except.map])⟩

/-- Observing all claims changes nothing and tells how far they have come, if no call is refused. -/
theorem runs_observeClaims {r : Except Failure (List (String × ClaimProgress))}
    (h : (claims.mapM (observeClaim ns requested started)).Runs m es r m') (hs : s.Serves es t) :
    m' = m ∧ Reads es ∧ (Store.Refused es r ∨ r = claims.mapM (progressOf s ns requested started)) := by
  induction claims generalizing m es r with
  | nil =>
    obtain ⟨rfl, rfl, rfl⟩ := runs_mapM_nil.1 h
    exact ⟨rfl, reads_nil, .inr rfl⟩
  | cons claim claims ih =>
    rcases runs_mapM_cons.1 h with ⟨es₁, es₂, b, m₁, r₂, rfl, hclaim, hclaims, rfl⟩ | ⟨f, rfl, hclaim⟩
    · obtain ⟨u, hs₁, hs₂⟩ := Store.serves_append.1 hs
      obtain ⟨rfl, hreads₁, hrefused | hb⟩ := runs_observeClaim hclaim hs₁
      · exact absurd hrefused Store.not_refused_ok
      obtain rfl := hs₁.eq_of_reads hreads₁
      obtain ⟨rfl, hreads₂, hclaims⟩ := ih hclaims hs₂
      refine ⟨rfl, by simp [hreads₁, hreads₂], hclaims.imp ?_ ?_⟩
      · intro hrefused
        cases r₂ with
        | error f => exact (hrefused.append _).error
        | ok _ => exact absurd hrefused Store.not_refused_ok
      · rintro rfl
        rw [List.mapM_cons, ← hb]
        cases List.mapM (progressOf u ns requested started) claims <;> rfl
    · obtain ⟨rfl, hreads, hclaim⟩ := runs_observeClaim hclaim hs
      refine ⟨rfl, hreads, hclaim.imp Store.Refused.error ?_⟩
      intro hf
      rw [List.mapM_cons, ← hf]
      rfl

theorem progressOf_eq_ok {claim : Claim} {progress : String × ClaimProgress} :
    progressOf s ns requested started claim = .ok progress ↔
      progress.1 = claim.name ∧
        claimProgress claim requested (s.perform (.listEvents ns claim.name)).1 started = .ok progress.2 := by
  obtain ⟨name, progress⟩ := progress
  unfold progressOf
  cases claimProgress claim requested (s.perform (.listEvents ns claim.name)).1 started <;>
    simp [Except.map, eq_comm]

theorem not_isVerdict_of_progressOf {claim : Claim} {f : Failure}
    (h : progressOf s ns requested started claim = .error f) : f.isVerdict = false :=
  not_isVerdict_of_capacityBytes (map_eq_error_iff.1 (map_eq_error_iff.1 h))

/-- All are done exactly if all have the requested bytes. -/
theorem all_done_iff {progress : List (String × ClaimProgress)}
    (h : claims.mapM (progressOf s ns requested started) = .ok progress) :
    progress.all (·.2 = .done) = true ↔ ∀ claim ∈ claims, capacityBytes claim = .ok (some requested) := by
  have hforall := mapM_eq_ok_iff.1 h
  clear h
  induction hforall with
  | nil => simp
  | cons hhead _ ih =>
    have hdone := claimProgress_eq_done.symm.trans (by rw [(progressOf_eq_ok.1 hhead).2, Except.ok.injEq])
    simp only [List.all_cons, Bool.and_eq_true, decide_eq_true_eq, ih, List.forall_mem_cons, hdone]

/-- Whether a resize has failed by what a server holds: a claim failed, and none of them moves. -/
def HasFailed (s : Store) (ns : String) (requested : Nat) (started : Instant) (claims : List Claim) : Prop :=
  (∃ claim ∈ claims, ∃ note, progressOf s ns requested started claim = .ok (claim.name, .failed note)) ∧
    ∀ claim ∈ claims, progressOf s ns requested started claim ≠ .ok (claim.name, .inProgress)

theorem advance_eq_failed_iff {progress : List (String × ClaimProgress)}
    (h : claims.mapM (progressOf s ns requested started) = .ok progress) :
    (∃ reason, (ResizeState.inProgress started).advance progress = .failed reason) ↔
      HasFailed s ns requested started claims := by
  have hname {claim : Claim} {p : String × ClaimProgress} (hp : progressOf s ns requested started claim = .ok p) :
      p = (claim.name, p.2) := Prod.ext (progressOf_eq_ok.1 hp).1 rfl
  rw [ResizeState.advance_eq_failed_iff]
  refine and_congr ?_ ?_
  · constructor
    · rintro ⟨p, hp, note, hnote⟩
      obtain ⟨claim, hclaim, hprogress⟩ := (mem_of_mapM_eq_ok h).1 hp
      exact ⟨claim, hclaim, note, hprogress.trans (by rw [hname hprogress, hnote])⟩
    · rintro ⟨claim, hclaim, note, hprogress⟩
      exact ⟨_, (mem_of_mapM_eq_ok h).2 ⟨claim, hclaim, hprogress⟩, note, rfl⟩
  · constructor
    · intro hnone claim hclaim hprogress
      exact hnone _ ((mem_of_mapM_eq_ok h).2 ⟨claim, hclaim, hprogress⟩) rfl
    · intro hnone p hp hmoves
      obtain ⟨claim, hclaim, hprogress⟩ := (mem_of_mapM_eq_ok h).1 hp
      exact hnone claim hclaim (hprogress.trans (by rw [hname hprogress, hmoves]))

/-- What following up a resize comes to. -/
inductive FollowUp (ns : String) (c held : Cluster) (configured : String) (requested : Nat) (started : Instant)
    (claims : List Claim) (s : Store) : List Exchange → Except Failure ResizeOutcome → Store → Prop where
  /-- How far the claims have come could not be told. -/
  | failed {es : List Exchange} {f : Failure} (reads : Reads es)
      (why : Store.Refused (α := Unit) es (.error f) ∨ claims.mapM (progressOf s ns requested started) = .error f) :
      FollowUp ns c held configured requested started claims s es (.error f) s
  /-- Claims failed and none moves any more. -/
  | givenUp {es : List Exchange} {f : Failure} {t : Store} {progress : List (String × ClaimProgress)} {reason : String}
      (found : claims.mapM (progressOf s ns requested started) = .ok progress)
      (failed : (ResizeState.inProgress started).advance progress = .failed reason)
      (gaveUp : GaveUp (α := Unit) ns c configured es (.error f) t) (same : s.SameButClusters t) :
      FollowUp ns c held configured requested started claims s es (.error f) t
  /-- There is something left to wait for. -/
  | waiting {es : List Exchange} {progress : List (String × ClaimProgress)}
      (found : claims.mapM (progressOf s ns requested started) = .ok progress)
      (going : (ResizeState.inProgress started).advance progress = .inProgress started)
      (left : ¬∀ claim ∈ claims, capacityBytes claim = .ok (some requested)) (reads : Reads es) :
      FollowUp ns c held configured requested started claims s es (.ok .waiting) s
  /-- All claims have grown, but the server did not let the resize end. -/
  | stopped {es : List Exchange} {f : Failure} {t : Store}
      (grown : ∀ claim ∈ claims, capacityBytes claim = .ok (some requested))
      (refused : Store.Refused (α := Unit) es (.error f)) :
      FollowUp ns c held configured requested started claims s es (.error f) t
  /-- All claims have grown: the StatefulSet was deleted, and then the note was taken back. -/
  | completed {first last : List Exchange} {t : Store}
      (grown : ∀ claim ∈ claims, capacityBytes claim = .ok (some requested)) (reads : Reads first)
      (ends : ∀ call ∈ calls last, IsClusterCall ns c.name call)
      (unmarked : t.clusters.find? ns c.name = some ((markEnded held).getD held))
      (same : Store.SameButClusters { s with statefulSets := s.statefulSets.remove ns (c.tierSet .database) } t) :
      FollowUp ns c held configured requested started claims s
        (first ++ ⟨.call (.orphanStatefulSet ns (c.tierSet .database)), .ok ()⟩ :: last) (.ok .completed) t

theorem not_replaceClaim_of_reads (h : Reads es) (claim : Claim) : .replaceClaim ns claim ∉ calls es := by
  intro hmem
  cases h _ hmem

theorem not_replaceClaim_of_isClusterCall {name : String} (h : ∀ call ∈ calls es, IsClusterCall ns name call)
    (claim : Claim) : .replaceClaim ns claim ∉ calls es := by
  intro hmem
  rcases h _ hmem with hcall | ⟨_, hcall⟩ <;> cases hcall

/-- The end of a resize of which all claims have grown. -/
private theorem runs_complete {r : Except Failure ResizeOutcome} {name : String}
    (h : (do
      call (.orphanStatefulSet ns name)
      changeCluster settings ns c.name markEnded
      measure ns c.name (.resized "completed")
      return ResizeOutcome.completed : Pass σ ResizeOutcome).Runs m es r m') (hs : s.Serves es t)
    (hheld : s.clusters.find? ns c.name = some held) :
    m' = m ∧ ∃ reply last, es = ⟨.call (.orphanStatefulSet ns name), reply⟩ :: last ∧
      (∀ call ∈ calls last, IsClusterCall ns c.name call) ∧ ((∃ f, r = .error f ∧ Store.Refused es r) ∨
        reply = .ok () ∧ r = .ok .completed ∧ t.clusters.find? ns c.name = some ((markEnded held).getD held) ∧
          Store.SameButClusters { s with statefulSets := s.statefulSets.remove ns name } t) := by
  rcases runs_call_bind.1 h with ⟨e, rfl, rfl, rfl⟩ | ⟨_, rest, rfl, hrest⟩
  · obtain ⟨⟨fault, rfl⟩, -⟩ := Store.serves_error.1 hs
    exact ⟨rfl, _, [], rfl, by simp, .inl ⟨_, rfl, Store.refused_self⟩⟩
  · obtain ⟨-, hserves⟩ := Store.serves_ok.1 hs
    rcases runs_bind.1 hrest with ⟨es₁, es₂, _, m₁, rfl, hmark, hmeasure⟩ | ⟨f, rfl, hmark⟩
    · obtain ⟨u, hs₁, hs₂⟩ := Store.serves_append.1 hserves
      obtain ⟨rfl, hsame, hcalls, ⟨hrefused, _⟩ | ⟨_, hheld'⟩⟩ :=
        changeCluster_held hmark hs₁ (fun _ ↦ markEnded_keeps) hheld
      · exact absurd hrefused Store.not_refused_ok
      obtain ⟨_, rest, rfl, hend⟩ := runs_ask_bind.1 hmeasure
      obtain ⟨rfl, rfl, rfl⟩ := runs_pure.1 hend
      obtain ⟨v, hv, hs₃⟩ := hs₂
      obtain rfl : v = u := hv
      obtain rfl : t = v := hs₃
      exact ⟨rfl, _, _, rfl, by simpa using hcalls, .inr ⟨rfl, rfl, hheld', hsame⟩⟩
    · obtain ⟨rfl, _, hcalls, ⟨hrefused, _⟩ | ⟨hr, _⟩⟩ :=
        changeCluster_held hmark hserves (fun _ ↦ markEnded_keeps) hheld
      · exact ⟨rfl, _, _, rfl, hcalls, .inl ⟨f, rfl, hrefused.cons.error⟩⟩
      · cases hr

/-- Following up asks no claim to grow. -/
theorem runs_followUp {r : Except Failure ResizeOutcome}
    (h : (followUp settings ns c claims configured requested started).Runs m es r m') (hs : s.Serves es t)
    (hheld : s.clusters.find? ns c.name = some held) :
    m' = m ∧ FollowUp ns c held configured requested started claims s es r t ∧
      ∀ claim, .replaceClaim ns claim ∉ calls es := by
  rcases runs_bind.1 h with ⟨es₁, es₂, progress, m₁, rfl, hobserve, hrest⟩ | ⟨f, rfl, hobserve⟩
  · obtain ⟨u, hs₁, hs₂⟩ := Store.serves_append.1 hs
    obtain ⟨rfl, hreads, hrefused | hfound⟩ := runs_observeClaims hobserve hs₁
    · exact absurd hrefused Store.not_refused_ok
    obtain rfl : u = s := hs₁.eq_of_reads hreads
    rcases ResizeState.advance_inProgress started progress with hgoing | ⟨reason, hfailed⟩
    · simp only [hgoing] at hrest
      by_cases hall : progress.all (·.2 = .done) = true
      · simp only [hall, if_true] at hrest
        have hgrown := (all_done_iff hfound.symm).1 hall
        obtain ⟨rfl, reply, last, rfl, hcalls, hend⟩ := runs_complete hrest hs₂ hheld
        refine ⟨rfl, ?_, fun claim hmem ↦ ?_⟩
        · rcases hend with ⟨f, rfl, hrefused⟩ | ⟨rfl, rfl, hheld', hsame⟩
          · exact .stopped hgrown (hrefused.append _).error
          · exact .completed hgrown hreads hcalls hheld' hsame
        · rcases mem_calls_append.1 hmem with hmem | hmem
          · exact not_replaceClaim_of_reads hreads claim hmem
          · exact not_replaceClaim_of_isClusterCall hcalls claim (by simpa using hmem)
      · simp only [hall, Bool.false_eq_true, if_false] at hrest
        obtain ⟨rfl, rfl, rfl⟩ := runs_pure.1 hrest
        obtain rfl : t = u := hs₂
        have hreads' : Reads (es₁ ++ []) := by simpa using hreads
        exact ⟨rfl, .waiting hfound.symm hgoing (fun hgrown ↦ hall ((all_done_iff hfound.symm).2 hgrown)) hreads',
          not_replaceClaim_of_reads hreads'⟩
    · simp only [hfailed] at hrest
      obtain ⟨⟨f, rfl⟩, hgaveUp, hsame, rfl, hcalls⟩ := runs_rollBack hrest hs₂ hheld
      refine ⟨rfl, .givenUp hfound.symm hfailed (hgaveUp.error.append _) hsame, fun claim hmem ↦ ?_⟩
      rcases mem_calls_append.1 hmem with hmem | hmem
      · exact not_replaceClaim_of_reads hreads claim hmem
      · exact not_replaceClaim_of_isClusterCall hcalls claim hmem
  · obtain ⟨rfl, hreads, hwhy⟩ := runs_observeClaims hobserve hs
    obtain rfl := hs.eq_of_reads hreads
    exact ⟨rfl, .failed hreads (hwhy.imp Store.Refused.error Eq.symm), not_replaceClaim_of_reads hreads⟩

end Volume

end GaleraOperator
