import GaleraOperator.Api.Subject
import GaleraOperator.Proofs.Undisturbed
import GaleraOperator.Volume.Reconcile

/-!
# A quiet look at the volumes

A pass over the volumes of a cluster that ends well has started a resize, has completed one, or has only looked: there
was nothing to do, or there was still to wait. What it starts it notes on the cluster, and what it completes takes
away the StatefulSet, so which it was shows in its calls.
-/

namespace GaleraOperator

open Kube Pass

namespace Pass.Memoryless

variable {σ : Type}

theorem fetchCluster {ns name : String} : Memoryless (fetchCluster ns name : Pass σ Cluster) := by
  refine (call _).bind fun latest? ↦ ?_
  cases latest? with
  | none => exact fail _
  | some latest => exact pure latest

theorem changeCluster {settings : Settings} {ns name : String} {change : Cluster → Option Cluster} :
    Memoryless (changeCluster settings ns name change : Pass σ Unit) := by
  refine retryOnConflict _ (fetchCluster.bind fun latest ↦ ?_)
  cases change latest with
  | none => exact pure ()
  | some changed => exact (call _).bind fun _ ↦ pure ()

end Pass.Memoryless

namespace Volume

variable {σ : Type} {m m' : σ} {es : List Exchange} {settings : Settings} {ns configured : String} {c : Cluster}
  {claims : List Claim} {requested actual : Nat} {started : Instant} {outcome : ResizeOutcome}

theorem memoryless_rollBack {α : Type} (reason : String) :
    Memoryless (rollBack settings ns c configured reason : Pass σ α) :=
  .bind (.ask _) fun _ ↦ .bind .changeCluster fun _ ↦ .bind .changeCluster fun _ ↦ .fail _

theorem looks_observeClaim (claim : Claim) : Looks (observeClaim ns requested started claim : Pass σ _) :=
  .bind (.call rfl) fun _ ↦ .bind (.orFail _) fun _ ↦ .pure _

theorem memoryless_followUp :
    Memoryless (followUp settings ns c claims configured requested started : Pass σ ResizeOutcome) := by
  refine .bind (Looks.mapM looks_observeClaim claims).memoryless fun progress ↦ ?_
  split
  · exact memoryless_rollBack _
  · split
    · exact .bind (.call _) fun _ ↦ .bind .changeCluster fun _ ↦ .bind (.ask _) fun _ ↦ .pure _
    · exact .pure _

theorem memoryless_growClaim (claim : Claim) :
    Memoryless (growClaim settings ns c configured requested claim : Pass σ Bool) := by
  refine .bind (.orFail _) fun capacity ↦ ?_
  split
  · exact .pure _
  · refine .bind (.orOverflow _) fun target ↦ .bind (.attempt (.call _)) fun reply ↦ ?_
    split
    · exact .pure _
    · split
      · exact memoryless_rollBack _
      · exact .fail _

theorem memoryless_decideOn :
    Memoryless (decideOn settings ns c claims actual configured : Pass σ ResizeOutcome) := by
  refine .bind (.orFail _) fun configuredBytes ↦ .bind (.orFail _) fun requested ↦ ?_
  split
  · exact .fail _
  · exact memoryless_followUp
  · split
    · exact .bind .changeCluster fun _ ↦ .bind (.orOverflow _) fun _ ↦ .bind (.orOverflow _) fun _ ↦ .fail _
    · split
      · exact .pure _
      · exact .bind (.ask _) fun _ ↦ .bind .changeCluster fun _ ↦ .bind (.mapM memoryless_growClaim _) fun _ ↦
          .bind (.ask _) fun _ ↦ .pure _

theorem looks_find : Looks (find ns c : Pass σ Volumes) := by
  refine .bind (.call rfl) fun held ↦ ?_
  dsimp only
  split
  · exact .pure _
  · exact .bind (.call rfl) fun _ ↦ .pure _

/-- Looking after volumes makes no use of the memory. -/
theorem memoryless_reconcile : Memoryless (reconcile settings c : Pass σ ResizeOutcome) := by
  unfold reconcile
  split
  · refine .bind looks_find.memoryless fun volumes ↦ ?_
    split
    · exact .pure _
    · refine .bind (.orFail _) fun least? ↦ ?_
      split
      · refine .bind (.call _) fun set? ↦ ?_
        split
        · split
          · exact memoryless_decideOn
          · exact .pure _
        · exact .pure _
      · exact .pure _
  · exact .fail _

/-- How a pass over volumes went that ended well. -/
inductive Ended (es : List Exchange) : ResizeOutcome → Prop where
  | looked {outcome : ResizeOutcome} (idle : outcome = .noChange ∨ outcome = .waiting)
      (observes : ∀ call ∈ calls es, call.observes = true) : Ended es outcome
  | started {ns : String} {marked : Cluster} (count : Nat) (noted : .replaceCluster ns marked ∈ calls es) :
      Ended es (.started count)
  | completed {ns name : String} (orphaned : .orphanStatefulSet ns name ∈ calls es) : Ended es .completed

theorem Ended.after {fs : List Exchange} (h : Ended fs outcome) (hfirst : ∀ call ∈ calls es, call.observes = true) :
    Ended (es ++ fs) outcome := by
  cases h with
  | looked idle observes =>
    refine .looked idle fun call hcall ↦ ?_
    rcases mem_calls_append.1 hcall with hcall | hcall
    · exact hfirst call hcall
    · exact observes call hcall
  | started count noted => exact .started count (mem_calls_append.2 (.inr noted))
  | completed orphaned => exact .completed (mem_calls_append.2 (.inr orphaned))

theorem ended_noChange : Ended [] .noChange := .looked (.inl rfl) (List.forall_mem_nil _)

/-- Giving up a resize does not end well. -/
theorem not_runs_rollBack {α : Type} {a : α} {reason : String} :
    ¬(rollBack settings ns c configured reason).Runs m es (.ok a) m' := by
  intro h
  obtain ⟨_, _, _, _, -, -, hstorage⟩ := runs_bind_ok.1 h
  obtain ⟨_, _, _, _, -, -, hmark⟩ := runs_bind_ok.1 hstorage
  obtain ⟨_, _, _, _, -, -, hfail⟩ := runs_bind_ok.1 hmark
  obtain ⟨-, hr, -⟩ := runs_fail.1 hfail
  cases hr

/-- Refusing to make volumes smaller does not end well. -/
theorem not_runs_refuseShrink :
    ¬(refuseShrink settings ns c configured requested actual).Runs m es (.ok outcome) m' := by
  intro h
  obtain ⟨_, _, _, _, -, -, hrequested⟩ := runs_bind_ok.1 h
  obtain ⟨_, _, _, _, -, -, hactual⟩ := runs_bind_ok.1 hrequested
  obtain ⟨_, _, _, _, -, -, hfail⟩ := runs_bind_ok.1 hactual
  obtain ⟨-, hr, -⟩ := runs_fail.1 hfail
  cases hr

/-- A change that is made in any case is written if it ends well. -/
theorem replaced_of_changeCluster {name : String} {change : Cluster → Option Cluster}
    (h : (changeCluster settings ns name change).Runs m es (.ok ()) m') (hchange : ∀ latest, (change latest).isSome) :
    ∃ new, .replaceCluster ns new ∈ calls es := by
  obtain ⟨lost, last, m₁, rfl, -, hlast⟩ := Runs.retryOnConflict h
  obtain ⟨_, es₂, latest, _, rfl, -, hrest⟩ := runs_bind_ok.1 hlast
  obtain ⟨new, hnew⟩ := Option.isSome_iff_exists.1 (hchange latest)
  simp only [hnew] at hrest
  obtain ⟨answer, rest, rfl, -⟩ := runs_call_bind_ok.1 hrest
  exact ⟨new, by simp⟩

theorem ended_of_followUp
    (h : (followUp settings ns c claims configured requested started).Runs m es (.ok outcome) m') :
    Ended es outcome := by
  obtain ⟨es₁, es₂, progress, m₁, rfl, hclaims, hrest⟩ := runs_bind_ok.1 h
  refine Ended.after ?_ ((Looks.mapM looks_observeClaim claims).observes _ _ _ _ hclaims)
  split at hrest
  · exact absurd hrest not_runs_rollBack
  · split at hrest
    · obtain ⟨answer, rest, rfl, hafter⟩ := runs_call_bind_ok.1 hrest
      obtain ⟨_, _, _, _, rfl, -, hmeasure⟩ := runs_bind_ok.1 hafter
      obtain ⟨reply, _, rfl, hend⟩ := runs_ask_bind.1 hmeasure
      obtain ⟨-, hr, -⟩ := runs_pure.1 hend
      cases hr
      exact .completed (mem_calls.2 ⟨.ok answer, List.mem_cons_self ..⟩)
    · obtain ⟨rfl, hr, -⟩ := runs_pure.1 hrest
      cases hr
      exact .looked (.inr rfl) (List.forall_mem_nil _)

theorem ended_of_start (h : (start settings ns c claims configured requested).Runs m es (.ok outcome) m') :
    Ended es outcome := by
  obtain ⟨time, rest, rfl, hrest⟩ := runs_ask_bind.1 h
  obtain ⟨es₁, es₂, _, _, rfl, hmark, hafter⟩ := runs_bind_ok.1 hrest
  obtain ⟨marked, hnoted⟩ := replaced_of_changeCluster hmark fun _ ↦ rfl
  obtain ⟨_, _, asked, _, rfl, -, hmeasure⟩ := runs_bind_ok.1 hafter
  obtain ⟨reply, _, rfl, hend⟩ := runs_ask_bind.1 hmeasure
  obtain ⟨-, hr, -⟩ := runs_pure.1 hend
  cases hr
  exact .started _ (by simpa using .inl hnoted)

theorem ended_of_decideOn (h : (decideOn settings ns c claims actual configured).Runs m es (.ok outcome) m') :
    Ended es outcome := by
  obtain ⟨configuredBytes, -, hrest⟩ := runs_orFail_bind_ok.1 h
  obtain ⟨requested, -, hdecide⟩ := runs_orFail_bind_ok.1 hrest
  split at hdecide
  · obtain ⟨-, hr, -⟩ := runs_fail.1 hdecide
    cases hr
  · exact ended_of_followUp hdecide
  · split at hdecide
    · exact absurd hdecide not_runs_refuseShrink
    · split at hdecide
      · obtain ⟨rfl, hr, -⟩ := runs_pure.1 hdecide
        cases hr
        exact ended_noChange
      · exact ended_of_start hdecide

/-- A pass over volumes that ends well has only looked, or a resize was started or completed. -/
theorem ended_of_reconcile (h : (reconcile settings c).Runs m es (.ok outcome) m') : Ended es outcome := by
  have hidle {m : σ} {es : List Exchange} (h : (pure .noChange : Pass σ ResizeOutcome).Runs m es (.ok outcome) m') :
      Ended es outcome := by
    obtain ⟨rfl, hr, -⟩ := runs_pure.1 h
    cases hr
    exact ended_noChange
  unfold reconcile at h
  split at h
  · obtain ⟨es₁, es₂, volumes, m₁, rfl, hfind, hrest⟩ := runs_bind_ok.1 h
    refine Ended.after ?_ (looks_find.observes _ _ _ _ hfind)
    split at hrest
    · exact hidle hrest
    · obtain ⟨least?, -, hset⟩ := runs_orFail_bind_ok.1 hrest
      split at hset
      · obtain ⟨set?, rest, rfl, hdecide⟩ := runs_call_bind_ok.1 hset
        have hlooked : ∀ call ∈ calls [⟨.call (.getStatefulSet _ (c.tierSet .database)), .ok set?⟩],
            call.observes = true := by simp [Call.observes]
        refine Ended.after ?_ hlooked
        split at hdecide
        · split at hdecide
          · exact ended_of_decideOn hdecide
          · exact hidle hdecide
        · exact hidle hdecide
      · exact hidle hset
  · obtain ⟨-, hr, -⟩ := runs_fail.1 h
    cases hr

/-- A resize was neither started nor completed: nothing was noted on a cluster, and no StatefulSet was taken away. Of
a pass over volumes that ends well its outcome says the same (`noResize_iff`). -/
def NoResize (es : List Exchange) : Prop :=
  ∀ call ∈ calls es, call.operation ≠ .replaceCluster ∧ call.operation ≠ .orphanStatefulSet

theorem Ended.observes (h : Ended es outcome) (hquiet : NoResize es) : ∀ call ∈ calls es, call.observes = true := by
  cases h with
  | looked idle observes => exact observes
  | started count noted => exact absurd rfl (hquiet _ noted).1
  | completed orphaned => exact absurd rfl (hquiet _ orphaned).2

/-- What the outcome of a pass over volumes tells of a resize shows in its calls. -/
theorem noResize_iff (h : (reconcile settings c).Runs m es (.ok outcome) m') :
    NoResize es ↔ outcome = .noChange ∨ outcome = .waiting := by
  constructor
  · intro hquiet
    cases ended_of_reconcile h with
    | looked idle observes => exact idle
    | started count noted => exact absurd rfl (hquiet _ noted).1
    | completed orphaned => exact absurd rfl (hquiet _ orphaned).2
  · intro hidle call hcall
    cases ended_of_reconcile h with
    | looked idle observes =>
      have hobserves := observes call hcall
      cases call <;> first | exact absurd hobserves Bool.false_ne_true | simp [Call.operation]
    | started count noted => rcases hidle with hr | hr <;> cases hr
    | completed orphaned => rcases hidle with hr | hr <;> cases hr

end Volume

end GaleraOperator
