import GaleraOperator.Proofs.Control.Reports
import GaleraOperator.Proofs.Volume.Interruption

/-!
# A rollback that stops halfway

A resize is rolled back by two writes: the requested storage is set to what the StatefulSet was made with, and then the
note is taken back. If the first of them fails, the second is not tried, and if the second fails, nothing undoes the
first. So the note may be left on a cluster that asks for the old size again, but it is never taken back from one that
still asks for the new one; and the pass says that the resize has failed only if both writes went well.
-/

namespace GaleraOperator.Volume

open Pass

variable {σ α : Type} {m m' : σ} {es : List Exchange} {s t : Store} {ns name configured reason : String}
  {held before after c : Cluster} {settings : Settings}

/-- The note of a resize and the requested storage are as they were. -/
def IsUntouched (before after : Cluster) : Prop :=
  after.resizeMark? = before.resizeMark? ∧ after.requestedStorage = before.requestedStorage

/-- The requested storage is what the StatefulSet was made with, but the note is as it was. -/
def IsHalfway (configured : String) (before after : Cluster) : Prop :=
  after.resizeMark? = before.resizeMark? ∧ after.requestedStorage = configured

/-- The requested storage is what the StatefulSet was made with, and there is no note. -/
def IsUndone (configured : String) (after : Cluster) : Prop :=
  after.resizeMark? = none ∧ after.requestedStorage = configured

instance : Decidable (IsUntouched before after) := inferInstanceAs (Decidable (_ ∧ _))

instance : Decidable (IsHalfway configured before after) := inferInstanceAs (Decidable (_ ∧ _))

instance : Decidable (IsUndone configured after) := inferInstanceAs (Decidable (_ ∧ _))

/-- A call of some exchanges failed, with the error that a pass ended with. -/
def FailedAsCalled (es : List Exchange) (r : Except Failure α) : Prop :=
  ∃ call e, ⟨.call call, .error e⟩ ∈ es ∧ r = .error (.error e)

theorem not_failedAsCalled_ok {a : α} : ¬FailedAsCalled es (.ok a) := by
  rintro ⟨_, _, -, hr⟩
  cases hr

/-- Setting the storage of a cluster, whatever fails, leaves the note alone. -/
theorem stored_of_setStorage {r : Except Failure Unit}
    (h : (changeCluster settings ns name (setStorage configured)).Runs m es r m') (hs : s.MayGive es t)
    (hheld : s.clusters.find? ns name = some held) :
    ∃ after, t.clusters.find? ns name = some after ∧ (IsUntouched held after ∨ IsHalfway configured held after) ∧
      ((r = .ok () ∧ IsHalfway configured held after) ∨ FailedAsCalled es r) := by
  have hattempt : ∀ m es r m', (changeClusterOnce ns name (setStorage configured) : Pass σ Unit).Runs m es r m' →
      (ClusterWrite.storage ns name configured).Attempt ns name es r := fun _ _ _ _ hrun ↦
    ClusterWrite.attempt_changeClusterOnce hrun (fun _ _ ↦ ClusterWrite.changes_storage)
      fun _ ↦ ClusterWrite.needless_storage
  refine ClusterWrite.stored_of_retry h hs hattempt hheld
    (I := fun c ↦ IsUntouched held c ∨ IsHalfway configured held c) (.inl ⟨rfl, rfl⟩) ?_ ?_
  · rintro _ old new rfl hold
    have hreset : IsHalfway configured held (old.withStorage configured) :=
      ⟨hold.elim (·.1) (·.1), Cluster.requestedStorage_withStorage ..⟩
    exact ⟨.inr hreset, hreset⟩
  · exact fun _ c hstorage hc ↦ ⟨hc.elim (·.1) (·.1), hstorage⟩

/-- Taking back the note of a cluster, whatever fails, leaves the storage alone. -/
theorem stored_of_markEnded {r : Except Failure Unit}
    (h : (changeCluster settings ns name markEnded).Runs m es r m') (hs : s.MayGive es t)
    (hheld : s.clusters.find? ns name = some held) (hstorage : held.requestedStorage = configured) :
    ∃ after, t.clusters.find? ns name = some after ∧ (IsHalfway configured held after ∨ IsUndone configured after) ∧
      ((r = .ok () ∧ IsUndone configured after) ∨ FailedAsCalled es r) := by
  have hattempt : ∀ m es r m', (changeClusterOnce ns name markEnded : Pass σ Unit).Runs m es r m' →
      (ClusterWrite.unmark ns name).Attempt ns name es r := fun _ _ _ _ hrun ↦
    ClusterWrite.attempt_changeClusterOnce hrun (fun _ _ ↦ ClusterWrite.changes_unmark)
      fun _ ↦ ClusterWrite.needless_unmark
  refine ClusterWrite.stored_of_retry h hs hattempt hheld
    (I := fun c ↦ IsHalfway configured held c ∨ IsUndone configured c) (.inl ⟨rfl, hstorage⟩) ?_ ?_
  · rintro _ old new ⟨annotations, rfl, hnone, -⟩ hold
    have hundone : IsUndone configured { old with metadata.annotations := some annotations } :=
      ⟨hnone, hold.elim (·.2) (·.2)⟩
    exact ⟨.inr hundone, hundone⟩
  · exact fun _ c hmark hc ↦ ⟨hmark, hc.elim (·.2) (·.2)⟩

/-- How far a rollback comes, whatever calls fail on the way and whichever of them were performed nevertheless. It is
whole if it ends with the error of the resize. Otherwise it ends with the error of a call, and then it may not have
begun, or have stopped halfway, or have been heard of no more. -/
theorem stages_of_rollBack {r : Except Failure α}
    (h : (rollBack settings ns c configured reason).Runs m es r m') (hs : s.MayGive es t)
    (hheld : s.clusters.find? ns c.name = some held) :
    ∃ after, t.clusters.find? ns c.name = some after ∧
      ((r = .error (.error (.resize reason)) ∧ IsUndone configured after) ∨
        FailedAsCalled es r ∧
          (IsUntouched held after ∨ IsHalfway configured held after ∨ IsUndone configured after)) := by
  obtain ⟨_, rest, rfl, hrest⟩ := runs_ask_bind.1 h
  obtain ⟨u, hmeasure, hs⟩ := hs
  obtain rfl := hmeasure.eq_of_call? rfl
  rcases runs_bind.1 hrest with ⟨es₁, es₂, _, m₁, rfl, hstorage, hafter⟩ | ⟨f, rfl, hstorage⟩
  · obtain ⟨v, hs₁, hs₂⟩ := Store.mayGive_append.1 hs
    obtain ⟨mid, hmid, -, hset⟩ := stored_of_setStorage hstorage hs₁ hheld
    have hhalf := (hset.resolve_right not_failedAsCalled_ok).2
    rcases runs_bind.1 hafter with ⟨es₃, es₄, _, m₂, rfl, hmark, hend⟩ | ⟨f, rfl, hmark⟩
    · obtain ⟨rfl, rfl, rfl⟩ := runs_fail.1 hend
      rw [List.append_nil] at hs₂
      obtain ⟨after, hstored, -, hended⟩ := stored_of_markEnded hmark hs₂ hmid hhalf.2
      exact ⟨after, hstored, .inl ⟨rfl, (hended.resolve_right not_failedAsCalled_ok).2⟩⟩
    · obtain ⟨after, hstored, hstage, ⟨hr, -⟩ | ⟨call, e, hmem, hr⟩⟩ := stored_of_markEnded hmark hs₂ hmid hhalf.2
      · cases hr
      cases hr
      refine ⟨after, hstored, .inr ⟨⟨call, e, by simp [hmem], rfl⟩, .inr ?_⟩⟩
      exact hstage.imp_left fun hmarked ↦ ⟨hmarked.1.trans hhalf.1, hmarked.2⟩
  · obtain ⟨after, hstored, hstage, ⟨hr, -⟩ | ⟨call, e, hmem, hr⟩⟩ := stored_of_setStorage hstorage hs hheld
    · cases hr
    cases hr
    exact ⟨after, hstored, .inr ⟨⟨call, e, List.mem_cons_of_mem _ hmem, rfl⟩, hstage.imp_right .inl⟩⟩

/-- A server that does not let notes be taken back, beside a clock that stands still. -/
private def keepingNotes : Interaction.Surroundings Store := fun e s ↦
  match e with
  | .call (.replaceCluster ns c) =>
    if c.resizeMark? = none then (.error outOfOrder, s)
    else Store.surroundings Store.standstill (.call (.replaceCluster ns c)) s
  | e => Store.surroundings Store.standstill e s

private theorem mayAnswer_keepingNotes (e : Effect) (s : Store) :
    s.MayAnswer ⟨e, (keepingNotes e s).1⟩ (keepingNotes e s).2 := by
  cases e with
  | call call =>
    cases call with
    | replaceCluster ns c =>
      by_cases hmark : c.resizeMark? = none
      · simp only [keepingNotes, hmark, if_true]
        exact .failed _ _
      · simp only [keepingNotes, hmark, if_false]
        exact .performed _
    | _ => exact .performed _
  | now | wait | measure | touch => exact .aside rfl

/-- The rollback of the growing cluster after its resize was started. -/
private def growingRollBack : Pass Unit Unit := rollBack .standard "prod" growingMarked "1Gi" "no space left"

private theorem growingRollBack_end :
    (growingRollBack.runIn keepingNotes () markedStore).1 = (.error (.error outOfOrder), ()) ∧
      (growingRollBack.runIn keepingNotes () markedStore).2.clusters.find? "prod" "db" =
        some (growingMarked.withStorage "1Gi") := by
  decide +kernel

/-- A rollback is not all or nothing: where the note cannot be taken back, it stays on a cluster that asks for the old
size again. -/
theorem halfway_growing : ∃ es t after, growingRollBack.Runs () es (.error (.error outOfOrder)) () ∧
    markedStore.MayGive es t ∧ growingMarked.resizeMark?.isSome ∧
    t.clusters.find? "prod" "db" = some after ∧ IsHalfway "1Gi" growingMarked after ∧
    ¬(IsUntouched growingMarked after ∨ IsUndone "1Gi" after) := by
  obtain ⟨hr, hstored⟩ := growingRollBack_end
  refine ⟨growingRollBack.courseIn keepingNotes () markedStore, _, _, ?_,
    Store.mayGive_course mayAnswer_keepingNotes _ _, by decide +kernel, hstored, by decide +kernel, by decide +kernel⟩
  have hrun := runs_courseIn growingRollBack keepingNotes () markedStore
  rw [hr] at hrun
  exact hrun

/-- The rollback of the growing cluster ends as the call did that failed. -/
theorem stages_of_rollBack_growing : ∃ es t after, growingRollBack.Runs () es (.error (.error outOfOrder)) () ∧
    markedStore.MayGive es t ∧ markedStore.clusters.find? "prod" "db" = some growingMarked ∧
    t.clusters.find? "prod" "db" = some after ∧ FailedAsCalled (α := Unit) es (.error (.error outOfOrder)) ∧
    (IsUntouched growingMarked after ∨ IsHalfway "1Gi" growingMarked after ∨ IsUndone "1Gi" after) := by
  obtain ⟨hr, -⟩ := growingRollBack_end
  have hrun := runs_courseIn growingRollBack keepingNotes () markedStore
  have hgives := Store.mayGive_course mayAnswer_keepingNotes (growingRollBack.run.run ()) markedStore
  rw [hr] at hrun
  have hheld : markedStore.clusters.find? "prod" growingMarked.name = some growingMarked := by decide +kernel
  obtain ⟨after, hstored, ⟨hend, -⟩ | ⟨hfailed, hstage⟩⟩ := stages_of_rollBack hrun hgives hheld
  · cases hend
  · exact ⟨_, _, after, hrun, hgives, hheld, hstored, hfailed, hstage⟩

end GaleraOperator.Volume
