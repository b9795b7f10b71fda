import GaleraOperator.Proofs.Status.Aggregation

/-!
# The worst of the states

The state of a cluster is a fold over its tiers. Said without the fold, it is the state that is as bad as the worst of
them, and no worse. There is only one such state, so the order of the tiers and repetitions are of no account, and more
tiers never make a cluster better.
-/

namespace GaleraOperator

namespace ClusterState

variable {states states' : List ClusterState} {upgrading upgrading' : Bool} {s s' : ClusterState}

/-- A state is as bad as the worst of some states, and no worse. Without any it is the best of all, but while pods are
updated it is not. -/
structure IsWorst (states : List ClusterState) (upgrading : Bool) (s : ClusterState) : Prop where
  rank_le : ∀ x ∈ states, x.rank ≤ s.rank
  held : upgrading = true → initializing.rank ≤ s.rank
  attained : s = .ready ∨ s ∈ states ∨ (upgrading = true ∧ s = .initializing)

theorem join_eq_or (s t : ClusterState) : s.join t = s ∨ s.join t = t := (ite_eq_or_eq _ _ _).symm

/-- The whole is one of its parts, or what it was before them. -/
theorem foldl_join_mem (s : ClusterState) (states : List ClusterState) : states.foldl join s ∈ s :: states := by
  induction states generalizing s with
  | nil => exact List.mem_singleton_self s
  | cons first rest ih =>
    rw [List.foldl_cons]
    rcases List.mem_cons.1 (ih (s.join first)) with h | h
    · rw [h]
      rcases join_eq_or s first with h | h <;> simp [h]
    · exact List.mem_cons_of_mem _ (List.mem_cons_of_mem _ h)

theorem isWorst_overallState (states : List ClusterState) (upgrading : Bool) :
    IsWorst states upgrading (overallState states upgrading) := by
  obtain ⟨hlisted, hheld⟩ := rank_overallState_le_iff.1 (Nat.le_refl (overallState states upgrading).rank)
  refine ⟨hlisted, hheld, ?_⟩
  have hworst := List.mem_cons.1 (foldl_join_mem .ready states)
  unfold overallState
  cases upgrading with
  | false => exact hworst.imp_right .inl
  | true =>
    rcases join_eq_or (states.foldl join .ready) .initializing with h | h
    · rw [if_pos rfl, h]
      exact hworst.imp_right .inl
    · exact .inr (.inr ⟨rfl, h⟩)

/-- Among more states the worst is no better. -/
theorem IsWorst.mono (h : IsWorst states upgrading s) (h' : IsWorst states' upgrading' s') (hstates : states ⊆ states')
    (hupgrading : upgrading = true → upgrading' = true) : s.rank ≤ s'.rank := by
  rcases h.attained with rfl | hmem | ⟨hheld, rfl⟩
  · exact Nat.zero_le _
  · exact h'.rank_le _ (hstates hmem)
  · exact h'.held (hupgrading hheld)

theorem IsWorst.unique (h : IsWorst states upgrading s) (h' : IsWorst states upgrading s') : s = s' :=
  rank_inj.1 (Nat.le_antisymm (h.mono h' (List.Subset.refl _) id) (h'.mono h (List.Subset.refl _) id))

theorem overallState_eq_iff : overallState states upgrading = s ↔ IsWorst states upgrading s := by
  constructor
  · rintro rfl
    exact isWorst_overallState states upgrading
  · exact (isWorst_overallState states upgrading).unique

/-- More tiers, or that pods are updated, never make a cluster better. -/
theorem rank_overallState_mono (hstates : states ⊆ states') (hupgrading : upgrading = true → upgrading' = true) :
    (overallState states upgrading).rank ≤ (overallState states' upgrading').rank :=
  (isWorst_overallState states upgrading).mono (isWorst_overallState states' upgrading') hstates hupgrading

/-- It does not matter in which order and how often states are listed. -/
theorem overallState_congr (hstates : states ⊆ states') (hstates' : states' ⊆ states) :
    overallState states upgrading = overallState states' upgrading :=
  rank_inj.1 (Nat.le_antisymm (rank_overallState_mono hstates id) (rank_overallState_mono hstates' id))

/-- The state of a cluster whose tiers have some statuses is the worst of theirs, and no other state is. Permutations and
repetitions of the statuses are of no account. A further status never makes it better, and neither does that pods are
updated. -/
theorem overallState_worst (statuses : List TierStatus) (upgrading : Bool) :
    (∀ s, overallState (statuses.map (·.state)) upgrading = s ↔ IsWorst (statuses.map (·.state)) upgrading s) ∧
      (∀ statuses' : List TierStatus, statuses'.Perm statuses →
        overallState (statuses'.map (·.state)) upgrading = overallState (statuses.map (·.state)) upgrading) ∧
      (∀ statuses' : List TierStatus, (∀ status, status ∈ statuses' ↔ status ∈ statuses) →
        overallState (statuses'.map (·.state)) upgrading = overallState (statuses.map (·.state)) upgrading) ∧
      (∀ status : TierStatus, (overallState (statuses.map (·.state)) upgrading).rank ≤
        (overallState ((statuses ++ [status]).map (·.state)) upgrading).rank) ∧
      (overallState (statuses.map (·.state)) upgrading).rank ≤ (overallState (statuses.map (·.state)) true).rank := by
  have hsame : ∀ statuses' : List TierStatus, (∀ status, status ∈ statuses' ↔ status ∈ statuses) →
      overallState (statuses'.map (·.state)) upgrading = overallState (statuses.map (·.state)) upgrading := by
    intro statuses' h
    exact overallState_congr (List.map_subset _ fun status ↦ (h status).1) (List.map_subset _ fun status ↦ (h status).2)
  refine ⟨fun s ↦ overallState_eq_iff, fun statuses' h ↦ hsame statuses' fun status ↦ h.mem_iff, hsame, ?_, ?_⟩
  · intro status
    exact rank_overallState_mono (List.map_subset _ (List.subset_append_left _ _)) id
  · exact rank_overallState_mono (List.Subset.refl _) fun _ ↦ rfl

example : overallState [.ready, .stopping, .ready] true = .stopping := by decide

end ClusterState

end GaleraOperator
