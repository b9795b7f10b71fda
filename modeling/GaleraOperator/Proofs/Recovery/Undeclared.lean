import GaleraOperator.Proofs.Recovery.Evidence
import GaleraOperator.Proofs.Serve

/-!
# Recovering a cluster without pods

The declared size of a cluster is a signed number. If it is zero, no pods are expected, which is told apart at once. If
it is negative, no pods are expected either, so none of them speaks against a crash; but there is no room for a negative
number of signatures, and the recovery does not get past that. No log is fetched and no command is run in either case.
-/

namespace GaleraOperator.Recovery

open Pass

variable {σ W : Type} {settings : Settings} {c : Cluster} {pods : List PodObservation} {ns : String}

/-- Whatever the surroundings answer, a recovery ends well without having fetched a log or run a command, and nothing was
done about the cluster. -/
def IsSkipped (settings : Settings) (c : Cluster) (pods : List PodObservation) : Prop :=
  ∀ {σ W : Type} (s : Interaction.Surroundings W) (m : σ) (w : W),
    (∃ reason, ((recover settings c pods).runIn s m w).1.1 = .ok (.skipped reason)) ∧
      ∀ call ∈ calls ((recover settings c pods).courseIn s m w), call.operation ≠ .logs ∧ call.operation ≠ .exec

theorem ordinals_eq_nil (h : c.spec.database.size ≤ 0) : ordinals c = [] := by
  have hsize : c.spec.database.size.toInt ≤ 0 := Int32.le_iff_toInt_le.1 h
  rw [ordinals, Int.toNat_of_nonpos hsize, List.range_zero]

/-- Where no pods are expected, only what the owner says speaks against a crash. -/
theorem obstacle?_eq_none_of_size_le (h : c.spec.database.size ≤ 0) (pods : List PodObservation) :
    obstacle? c pods = none ↔
      c.spec.database.size < 0 ∧ c.spec.database.autoRecovery = true ∧ c.spec.paused = false := by
  have hneg : c.spec.database.size < 0 ↔ c.spec.database.size ≠ 0 :=
    ⟨Int32.ne_of_lt, fun hne ↦ Int32.lt_of_le_of_ne h hne⟩
  rw [obstacle?_eq_none, ordinals_eq_nil h, hneg]
  constructor
  · rintro ⟨hauto, hpaused, hne, -⟩
    exact ⟨hne, hauto, hpaused⟩
  · rintro ⟨hne, hauto, hpaused⟩
    exact ⟨hauto, hpaused, hne, List.forall_mem_nil _⟩

/-- What comes of a recovery where no pods are expected. -/
def outcomeWithoutPods (c : Cluster) (pods : List PodObservation) : Except Failure RecoveryOutcome :=
  match c.metadata.ns?, obstacle? c pods with
  | none, _ => .error (.error .missingNamespace)
  | some _, some obstacle => .ok (.skipped (.obstacle obstacle))
  | some _, none => .error (.overflow .capacity)

/-- Where no pods are expected, a recovery asks for nothing at all. -/
theorem recover_of_size_le (h : c.spec.database.size ≤ 0) :
    (recover settings c pods : Pass σ RecoveryOutcome) = orFail (outcomeWithoutPods c pods) := by
  unfold recover outcomeWithoutPods
  cases c.metadata.ns? with
  | none => rfl
  | some ns =>
    cases hobstacle : obstacle? c pods with
    | some obstacle => rfl
    | none =>
      have hneg := ((obstacle?_eq_none_of_size_le h pods).1 hobstacle).1
      simp only [hneg, if_true]
      rfl

theorem run_of_size_le (settings : Settings) (h : c.spec.database.size ≤ 0) (pods : List PodObservation)
    (s : Interaction.Surroundings W) (m : σ) (w : W) :
    (recover settings c pods).runIn s m w = ((outcomeWithoutPods c pods, m), w) ∧
      (recover settings c pods).courseIn s m w = [] := by
  rw [recover_of_size_le h]
  cases outcomeWithoutPods c pods <;> exact ⟨rfl, rfl⟩

/-- Which outcome it is, by what the cluster says. -/
theorem outcomeWithoutPods_cases (h : c.spec.database.size ≤ 0) (pods : List PodObservation) :
    ((∃ reason, outcomeWithoutPods c pods = .ok (.skipped reason)) ↔ c.metadata.ns? ≠ none ∧
      ¬(c.spec.database.size < 0 ∧ c.spec.database.autoRecovery = true ∧ c.spec.paused = false)) ∧
    (outcomeWithoutPods c pods = .error (.overflow .capacity) ↔ c.metadata.ns? ≠ none ∧
      c.spec.database.size < 0 ∧ c.spec.database.autoRecovery = true ∧ c.spec.paused = false) ∧
    (outcomeWithoutPods c pods = .error (.error .missingNamespace) ↔ c.metadata.ns? = none) := by
  rw [← obstacle?_eq_none_of_size_le h pods, outcomeWithoutPods]
  cases c.metadata.ns? with
  | none => simp
  | some ns => cases obstacle? c pods <;> simp

/-- A recovery of a cluster that declares no pods asks for nothing, whatever the surroundings answer. It is skipped
exactly if the declared size is zero, or the cluster is not to recover by itself or is paused; for a negative size there
is no outcome otherwise. -/
theorem isSkipped_iff (h : c.spec.database.size ≤ 0) :
    (IsSkipped settings c pods ↔ c.metadata.ns? ≠ none ∧
      (c.spec.database.size = 0 ∨ c.spec.database.autoRecovery = false ∨ c.spec.paused = true)) ∧
    ∀ {σ W : Type} (s : Interaction.Surroundings W) (m : σ) (w : W),
      (recover settings c pods).courseIn s m w = [] ∧
      (((recover settings c pods).runIn s m w).1.1 = .error (.overflow .capacity) ↔ c.metadata.ns? ≠ none ∧
        c.spec.database.size < 0 ∧ c.spec.database.autoRecovery = true ∧ c.spec.paused = false) ∧
      (((recover settings c pods).runIn s m w).1.1 = .error (.error .missingNamespace) ↔ c.metadata.ns? = none) := by
  obtain ⟨hskipped, hoverflow, hmissing⟩ := outcomeWithoutPods_cases h pods
  have hzero : c.spec.database.size = 0 ↔ ¬c.spec.database.size < 0 :=
    ⟨fun heq ↦ heq ▸ Int32.lt_irrefl, fun hlt ↦ Int32.le_antisymm h (Int32.not_lt.1 hlt)⟩
  have howner : (c.spec.database.size = 0 ∨ c.spec.database.autoRecovery = false ∨ c.spec.paused = true) ↔
      ¬(c.spec.database.size < 0 ∧ c.spec.database.autoRecovery = true ∧ c.spec.paused = false) := by
    rw [hzero]
    cases c.spec.database.autoRecovery <;> cases c.spec.paused <;> simp
  refine ⟨?_, fun s m w ↦ ?_⟩
  · rw [howner, ← hskipped]
    constructor
    · intro hall
      have hend := (hall (Store.surroundings Store.standstill) () Store.empty).1
      rwa [(run_of_size_le settings h pods _ _ _).1] at hend
    · intro hend σ W s m w
      obtain ⟨hrun, hcourse⟩ := run_of_size_le settings h pods s m w
      rw [hrun, hcourse]
      exact ⟨hend, List.forall_mem_nil _⟩
  · obtain ⟨hrun, hcourse⟩ := run_of_size_le settings h pods s m w
    rw [hrun, hcourse]
    exact ⟨rfl, hoverflow, hmissing⟩

/-- A cluster with such a size that recovers by itself. -/
private def ofSize (size : Int32) (paused : Bool) : Cluster where
  metadata := { Kube.ObjectMeta.empty with name := some "db", ns? := some "prod" }
  spec := ⟨⟨size, "image", true, ⟨none, "10Gi"⟩⟩, none, none, paused, none⟩
  status := none

/-- With a negative size the recovery is not skipped. -/
theorem not_isSkipped_negative : (ofSize (-1) false).spec.database.size ≤ 0 ∧
    ¬IsSkipped .standard (ofSize (-1) false) [] := by
  refine ⟨by decide, fun hskipped ↦ ?_⟩
  obtain ⟨⟨reason, hend⟩, -⟩ := hskipped (Store.surroundings Store.standstill) () Store.empty
  cases hend

/-- With a negative size it is skipped only while the cluster is paused, and with a size of zero always. -/
theorem isSkipped_iff_negative : (ofSize 0 false).spec.database.size ≤ 0 ∧ IsSkipped .standard (ofSize 0 false) [] ∧
    (ofSize (-1) false).spec.database.size ≤ 0 ∧ IsSkipped .standard (ofSize (-1) true) [] ∧
    ((recover .standard (ofSize (-1) false) []).runIn (Store.surroundings Store.standstill) () Store.empty).1.1 =
      .error (.overflow .capacity) := by
  have hzero : (ofSize 0 false).spec.database.size ≤ 0 := by decide
  have hnegative (paused : Bool) : (ofSize (-1) paused).spec.database.size ≤ 0 := by
    cases paused <;> decide
  refine ⟨hzero, (isSkipped_iff hzero).1.2 ⟨nofun, .inl rfl⟩, hnegative false,
    (isSkipped_iff (hnegative true)).1.2 ⟨nofun, .inr (.inr rfl)⟩, ?_⟩
  exact ((isSkipped_iff (hnegative false)).2 _ () Store.empty).2.1.2 ⟨nofun, by decide, rfl, rfl⟩

end GaleraOperator.Recovery
