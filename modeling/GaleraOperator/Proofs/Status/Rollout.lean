import GaleraOperator.Proofs.Serve
import GaleraOperator.Proofs.Status.Aggregation

/-!
# Rollouts

A StatefulSet tells of a rollout in two ways: by fewer updated replicas than there are, and by two revisions that differ.
A cluster is never reported ready while replicas of one of its tiers wait to be updated. The revision that is replaced is
of no account: a cluster is reported ready as soon as all pods count as ready and the replicas that exist are updated,
which they also are while the last old pod is away. Among the pods of the database an old one that is still listed is
told by its own revision, among proxies it is not.
-/

namespace GaleraOperator

open Kube Pass

namespace TierAnswers

/-- The StatefulSet of a tier tells that a rollout is under way: its revisions differ, or fewer replicas are updated than
there are. -/
def ReportsRollout (a : TierAnswers) : Prop :=
  ∃ status ∈ a.set.bind (·.status),
    (∃ current ∈ status.currentRevision, ∃ update ∈ status.updateRevision, current ≠ update) ∨
      status.updatedReplicas.getD 0 < status.replicas

/-- The same answers, but for the revision that is replaced. -/
def replacing (current? : Option String) (a : TierAnswers) : TierAnswers :=
  { a with set := a.set.map fun set ↦
      { set with status := set.status.map fun status ↦ { status with currentRevision := current? } } }

variable {t : Tier} {a : TierAnswers} {current? : Option String}

theorem reportsRollout_of_isRolling (h : a.isRolling = true) : a.ReportsRollout := by
  obtain ⟨status, hstatus, hwaiting⟩ := (Option.any_eq_true _ _).1 h
  exact ⟨status, hstatus, .inr (of_decide_eq_true hwaiting)⟩

@[simp] theorem updateRevision?_replacing : (a.replacing current?).updateRevision? = a.updateRevision? := by
  rcases a with ⟨pods, - | ⟨metadata, spec, - | status, carried⟩⟩ <;> rfl

@[simp] theorem isRolling_replacing : (a.replacing current?).isRolling = a.isRolling := by
  rcases a with ⟨pods, - | ⟨metadata, spec, - | status, carried⟩⟩ <;> rfl

@[simp] theorem observation_replacing {c : Cluster} :
    (a.replacing current?).observation c t = a.observation c t := by
  rw [observation, updateRevision?_replacing, isRolling_replacing]
  rfl

/-- If a pod does not count as ready, fewer do than there are. -/
theorem readyCount_lt_length {pod : Pod} {log : String} (hpod : (pod, log) ∈ a.pods)
    (hnot : ¬CountsAsReady t a.updateRevision? pod log) : a.readyCount t < a.pods.length := by
  refine Nat.lt_of_le_of_ne List.countP_le_length fun heq ↦ hnot ?_
  simpa using List.countP_eq_length.1 heq (pod, log) hpod

end TierAnswers

variable {σ : Type} {m m' : σ} {c : Cluster} {es : List Exchange} {answers : Tier → TierAnswers}

theorem reportedState_eq_ready_iff : reportedState c answers = .ready ↔ c.spec.paused = false ∧
    ∀ t ∈ c.tiers, (answers t).toldCount t = c.sizeOf t ∧ (answers t).isRolling = false := by
  unfold reportedState
  cases c.spec.paused with
  | true =>
    rw [if_pos rfl]
    split <;> simp
  | false =>
    rw [if_neg Bool.false_ne_true, and_iff_right rfl]
    split
    · next hall => exact iff_of_true rfl hall
    · next hsome => exact iff_of_false (by decide) hsome

/-- A listed database pod that does not count as ready holds the cluster, unless more pods are listed than are wanted. -/
theorem reportedState_ne_ready_of_pod {pod : Pod} {log : String} (hpod : (pod, log) ∈ (answers .database).pods)
    (hnot : ¬CountsAsReady .database (answers .database).updateRevision? pod log)
    (hfew : ((answers .database).pods.length : Int) ≤ (c.sizeOf .database).toInt) :
    reportedState c answers ≠ .ready := by
  intro hready
  have hdatabase : Tier.database ∈ c.tiers := List.mem_filter.2 ⟨List.mem_cons_self .., rfl⟩
  have hall := ((reportedState_eq_ready_iff.1 hready).2 .database hdatabase).1
  have hfewer := TierAnswers.readyCount_lt_length hpod hnot
  have hsize := Int32.toInt_lt (c.sizeOf .database)
  rw [TierAnswers.toldCount_eq_iff (by omega)] at hall
  omega

/-- What is learned about the tiers does not depend on the revisions that are replaced. -/
theorem observations_replacing (current : Tier → Option String) :
    observations c (fun t ↦ (answers t).replacing (current t)) = observations c answers := by
  simp only [observations, TierAnswers.observation_replacing]

/-- A cluster is reported ready exactly if it is not paused, as many pods of every tier count as ready as are wanted, by a
count in 32 bits, and no replicas wait to be updated. So it never is while replicas of a tier wait, and not while a
database pod of another revision than the latest is listed among those that are wanted. Whatever revisions the
StatefulSets tell that they replace, the same is reported. -/
theorem aggregate_heeds_waiting_replicas {update : StatusUpdate} {pods : List PodObservation}
    (h : (aggregate c).Runs m es (.ok (update, pods)) m') :
    ∃ ns, c.metadata.ns? = some ns ∧ (∃ time answers, es = aggregation ns c time answers) ∧
      ∀ time answers, es = aggregation ns c time answers →
        (update.state = .ready ↔ c.spec.paused = false ∧ ∀ t ∈ c.tiers,
          (answers t).toldCount t = c.sizeOf t ∧ (answers t).isRolling = false) ∧
        (∀ t ∈ c.tiers, (answers t).isRolling = true → (answers t).ReportsRollout ∧ update.state ≠ .ready) ∧
        (∀ entry ∈ (answers .database).pods,
          entry.1.metadata.labelsOrNone.get? revisionLabel ≠ (answers .database).updateRevision? →
          ((answers .database).pods.length : Int) ≤ (c.sizeOf .database).toInt → update.state ≠ .ready) ∧
        ∀ current : Tier → Option String, (aggregate c).Runs m
          (aggregation ns c time fun t ↦ (answers t).replacing (current t)) (.ok (update, pods)) m' := by
  obtain ⟨ns, hns⟩ := namespaced_of_aggregate h
  obtain ⟨rfl, time, answers, hes, -⟩ := (runs_aggregate_ok hns).1 h
  refine ⟨ns, hns, ⟨time, answers, hes⟩, ?_⟩
  rintro time answers rfl
  obtain ⟨rfl, rfl⟩ := Prod.mk.inj (result_of_aggregation hns h)
  simp only [StatusUpdate.state, state_summary]
  refine ⟨reportedState_eq_ready_iff, ?_, ?_, ?_⟩
  · intro t ht hrolling
    refine ⟨TierAnswers.reportsRollout_of_isRolling hrolling, fun hready ↦ ?_⟩
    exact absurd ((reportedState_eq_ready_iff.1 hready).2 t ht).2 (by simp [hrolling])
  · rintro ⟨pod, log⟩ hpod hold
    exact reportedState_ne_ready_of_pod hpod fun hcounts ↦ hold (hcounts.2 rfl).2.2
  · intro current
    refine (runs_aggregate_ok hns).2 ⟨rfl, time, _, rfl, ?_⟩
    rw [observations_replacing]

/-- A cluster of one database pod behind two proxies. -/
private def fronted : Cluster where
  metadata := { ObjectMeta.empty with name := some "db", ns? := some "prod" }
  spec := ⟨⟨1, "image", true, ⟨none, "1Gi"⟩⟩, some ⟨true, 2, none⟩, none, false, none⟩
  status := none

/-- A pod of some revision whose containers are ready. -/
private def podOf (revision : String) (name : String) : Pod where
  metadata := { ObjectMeta.empty with name := some name, labels := some (.ofList [(revisionLabel, revision)]) }
  status := some ⟨some [⟨none, none, none, none, "True", "ContainersReady"⟩], none, some "Running", []⟩
  carried := []

/-- What is answered about the tiers while the proxies are updated, with some number of them that exist. The first one is
still listed as it was before. -/
private def frontedAnswers (proxies : Int32) : Tier → TierAnswers
  | .database => ⟨[(podOf "one" "db-pxc-0", "ready for connections")],
      some ⟨ObjectMeta.empty, none, some ⟨some "one", 1, some "one", some 1, []⟩⟩⟩
  | _ => ⟨[(podOf "one" "db-haproxy-0", ""), (podOf "two" "db-haproxy-1", "")],
      some ⟨ObjectMeta.empty, none, some ⟨some "one", proxies, some "two", some 1, []⟩⟩⟩

private theorem runs_aggregate_fronted (proxies : Int32) : ∃ update pods,
    (aggregate fronted).Runs () (aggregation "prod" fronted Store.standstill (frontedAnswers proxies))
      (.ok (update, pods)) () ∧ update.state = reportedState fronted (frontedAnswers proxies) := by
  have hns : fronted.metadata.ns? = some "prod" := rfl
  exact ⟨_, _, (runs_aggregate_ok hns).2 ⟨rfl, Store.standstill, frontedAnswers proxies, rfl, rfl⟩, state_summary _⟩

/-- While one of two proxies waits, the cluster is not ready. -/
theorem aggregate_heeds_waiting_replicas_fronted : ∃ update pods,
    (aggregate fronted).Runs () (aggregation "prod" fronted Store.standstill (frontedAnswers 2))
      (.ok (update, pods)) () ∧ update.state ≠ .ready := by
  obtain ⟨update, pods, hrun, -⟩ := runs_aggregate_fronted 2
  obtain ⟨ns, hns, -, hreports⟩ := aggregate_heeds_waiting_replicas hrun
  obtain rfl : "prod" = ns := Option.some.inj hns
  obtain ⟨-, hwaiting, -⟩ := hreports _ _ rfl
  exact ⟨update, pods, hrun, (hwaiting .haproxy (by decide) (by decide)).2⟩

/-- While the old one of two proxies is away, the revisions of the StatefulSet differ and the cluster is ready. -/
theorem aggregate_ready_during_rollout : ∃ update pods,
    (aggregate fronted).Runs () (aggregation "prod" fronted Store.standstill (frontedAnswers 1))
      (.ok (update, pods)) () ∧
      (∃ t ∈ fronted.tiers, (frontedAnswers 1 t).ReportsRollout) ∧ update.state = .ready := by
  obtain ⟨update, pods, hrun, hstate⟩ := runs_aggregate_fronted 1
  have hready : reportedState fronted (frontedAnswers 1) = .ready := by decide +kernel
  refine ⟨update, pods, hrun, ⟨.haproxy, by decide, ?_⟩, hstate.trans hready⟩
  exact ⟨_, rfl, .inl ⟨"one", rfl, "two", rfl, by decide⟩⟩

end GaleraOperator
