import GaleraOperator.Proofs.Run
import GaleraOperator.Status.Aggregate

/-!
# The state of a cluster

The state that is reported of a cluster, said in terms of what was answered about its tiers. Logs are asked for only
where they matter, tiers are looked at one after the other, and their states are joined; but in the end it only counts
how many pods of each tier are ready, and whether some tier still has pods to update. The pods are counted in 32 bits,
so the count is their number as long as fewer than `2 ^ 31` of them are ready.
-/

namespace GaleraOperator

open Kube Pass

/-- What was answered about a tier: its pods, each with the end of its log, and its StatefulSet. -/
structure TierAnswers where
  pods : List (Pod × String)
  set : Option StatefulSet

/-- Whether a pod counts as ready: some condition says that its containers are, and, if it holds the database, its log
does not end in a crash banner and it has the revision that the StatefulSet is updated to. -/
def CountsAsReady (t : Tier) (update? : Option String) (pod : Pod) (log : String) : Prop :=
  (∃ condition ∈ pod.conditions, condition.type = "ContainersReady" ∧ condition.status = "True") ∧
    (t = .database → CrashLog.isBanner log = false ∧ (pod.metadata.labelsOrNone.get? revisionLabel).isSome ∧
      pod.metadata.labelsOrNone.get? revisionLabel = update?)

instance (t : Tier) (update? : Option String) (pod : Pod) (log : String) : Decidable (CountsAsReady t update? pod log) :=
  inferInstanceAs (Decidable (_ ∧ (_ → _)))

/-- The tiers that the owner of a cluster asks for. -/
def Cluster.tiers (c : Cluster) : List Tier := Tier.all.filter c.hasTier

namespace TierAnswers

/-- The revision that the pods of a tier are updated to. -/
def updateRevision? (a : TierAnswers) : Option String := a.set.bind (·.updateRevision?)

/-- Whether fewer pods of a tier are updated than there are. -/
def isRolling (a : TierAnswers) : Bool :=
  (a.set.bind (·.status)).any fun status ↦ status.updatedReplicas.getD 0 < status.replicas

/-- The number of pods of a tier that count as ready. -/
def readyCount (t : Tier) (a : TierAnswers) : Nat :=
  a.pods.countP fun (pod, log) ↦ CountsAsReady t a.updateRevision? pod log

/-- That number as it is told, in 32 bits. -/
def toldCount (t : Tier) (a : TierAnswers) : Int32 := .ofNat (a.readyCount t)

/-- The question for the end of a pod's log, if it is asked: only where the pod could be a ready one of the database. -/
def logExchange (ns : String) (t : Tier) : Pod × String → List Exchange
  | (pod, log) =>
    if pod.containersReady && t.isDatabase then
      [⟨.call (.logs ns pod.name Recovery.databaseContainer CrashLog.lineCount), .ok log⟩]
    else []

/-- What is asked about a tier, with what is answered. -/
def exchanges (ns : String) (c : Cluster) (t : Tier) (a : TierAnswers) : List Exchange :=
  ⟨.call (.listPods ns (c.tierLabels t).selector), .ok (a.pods.map Prod.fst)⟩ ::
    ⟨.call (.getStatefulSet ns (c.tierSet t)), .ok a.set⟩ :: a.pods.flatMap (logExchange ns t)

/-- What is learned about a pod. -/
def podObservation (t : Tier) (update? : Option String) : Pod × String → PodObservation
  | (pod, log) => {
    name := pod.name
    running := pod.isRunning
    ready := CountsAsReady t update? pod log
    waiting := if pod.containersReady then [] else pod.waitingMessages
    unschedulable := pod.unschedulable? }

/-- What is learned about a tier. -/
def observation (c : Cluster) (t : Tier) (a : TierAnswers) : TierObservation where
  size := c.sizeOf t
  paused := c.spec.paused
  pods := a.pods.map (podObservation t a.updateRevision?)
  upgrading := a.isRolling

end TierAnswers

/-- What is asked when a cluster is looked at, with what is answered: the time, and something about every tier that the
owner asks for. -/
def aggregation (ns : String) (c : Cluster) (time : Instant) (answers : Tier → TierAnswers) : List Exchange :=
  ⟨.now, time⟩ :: c.tiers.flatMap fun t ↦ (answers t).exchanges ns c t

/-- The state of a cluster, given what was answered about its tiers. -/
def reportedState (c : Cluster) (answers : Tier → TierAnswers) : ClusterState :=
  if c.spec.paused then
    if ∃ t ∈ c.tiers, (answers t).toldCount t ≠ 0 then .stopping else .paused
  else if ∀ t ∈ c.tiers, (answers t).toldCount t = c.sizeOf t ∧ (answers t).isRolling = false then .ready
  else .initializing

/-- The state of a cluster by the numbers of its pods that count as ready, however many they are. -/
def stateByNumbers (c : Cluster) (answers : Tier → TierAnswers) : ClusterState :=
  if c.spec.paused then
    if ∃ t ∈ c.tiers, 0 < (answers t).readyCount t then .stopping else .paused
  else if ∀ t ∈ c.tiers, ((answers t).readyCount t : Int) = (c.sizeOf t).toInt ∧ (answers t).isRolling = false then
    .ready
  else .initializing

namespace ClusterState

variable {s : ClusterState} {states : List ClusterState} {n : Nat}

theorem rank_foldl_join_le_iff : (states.foldl join s).rank ≤ n ↔ s.rank ≤ n ∧ ∀ x ∈ states, x.rank ≤ n := by
  induction states generalizing s with
  | nil => simp
  | cons first rest ih => rw [List.foldl_cons, ih, rank_join, max_le_iff, List.forall_mem_cons, and_assoc]

/-- The whole is as good as a state exactly if all of its parts are; while pods are updated it is not ready. -/
theorem rank_overallState_le_iff {upgrading : Bool} :
    (overallState states upgrading).rank ≤ n ↔ (∀ x ∈ states, x.rank ≤ n) ∧ (upgrading = true → 1 ≤ n) := by
  have hworst : (states.foldl join .ready).rank ≤ n ↔ ∀ x ∈ states, x.rank ≤ n := by
    rw [rank_foldl_join_le_iff]
    exact and_iff_right (Nat.zero_le n)
  unfold overallState
  cases upgrading with
  | false => simpa using hworst
  | true =>
    simp only [if_true, rank_join, max_le_iff, hworst, true_imp_iff]
    rfl

/-- A cluster whose tiers are stopped or stopping stops until all of them are stopped. -/
theorem overallState_of_paused {upgrading : Bool} (hstates : ∀ x ∈ states, x = .paused ∨ x = .stopping)
    (hne : states ≠ []) :
    overallState states upgrading = if ∃ x ∈ states, x = .stopping then .stopping else .paused := by
  obtain ⟨first, hfirst⟩ := List.exists_mem_of_ne_nil states hne
  have hmost : (overallState states upgrading).rank ≤ 3 := by
    refine rank_overallState_le_iff.2 ⟨fun x hx ↦ ?_, fun _ ↦ by omega⟩
    rcases hstates x hx with rfl | rfl <;> decide
  have hleast : ¬(overallState states upgrading).rank ≤ 1 := by
    intro hrank
    have hbetter := (rank_overallState_le_iff.1 hrank).1 first hfirst
    rcases hstates first hfirst with rfl | rfl <;> exact absurd hbetter (by decide)
  have hpaused : (overallState states upgrading).rank ≤ 2 ↔ ¬∃ x ∈ states, x = .stopping := by
    rw [rank_overallState_le_iff, and_iff_left fun _ ↦ by omega]
    constructor
    · rintro hall ⟨x, hx, rfl⟩
      exact absurd (hall .stopping hx) (by decide)
    · intro hnone x hx
      rw [(hstates x hx).resolve_right fun hstopping ↦ hnone ⟨x, hx, hstopping⟩]
      rfl
  rw [← rank_inj]
  split
  · next hsome =>
    have hworse : ¬(overallState states upgrading).rank ≤ 2 := fun h ↦ hpaused.1 h hsome
    change _ = 3
    omega
  · next hnone =>
    have hbetter := hpaused.2 hnone
    change _ = 2
    omega

/-- A cluster whose tiers are ready or become so is ready once all of them are and none has pods to update. -/
theorem overallState_of_live {upgrading : Bool} (hstates : ∀ x ∈ states, x = .ready ∨ x = .initializing) :
    overallState states upgrading =
      if (∀ x ∈ states, x = .ready) ∧ upgrading = false then .ready else .initializing := by
  have hmost : (overallState states upgrading).rank ≤ 1 := by
    refine rank_overallState_le_iff.2 ⟨fun x hx ↦ ?_, fun _ ↦ by omega⟩
    rcases hstates x hx with rfl | rfl <;> decide
  have hready : (overallState states upgrading).rank ≤ 0 ↔ (∀ x ∈ states, x = .ready) ∧ upgrading = false := by
    rw [rank_overallState_le_iff]
    refine and_congr (forall₂_congr fun x hx ↦ ?_) (by simp)
    rcases hstates x hx with rfl | rfl <;> decide
  rw [← rank_inj]
  split
  · next hall =>
    have hbetter := hready.2 hall
    change _ = 0
    omega
  · next hsome =>
    have hworse : ¬(overallState states upgrading).rank ≤ 0 := fun h ↦ hsome (hready.1 h)
    change _ = 1
    omega

end ClusterState

variable {σ : Type} {m m' : σ} {ns : String} {c : Cluster} {es : List Exchange} {t : Tier} {update? : Option String}
  {answers answers' : Tier → TierAnswers}

theorem containersReady_iff {pod : Pod} : pod.containersReady = true ↔
    ∃ condition ∈ pod.conditions, condition.type = "ContainersReady" ∧ condition.status = "True" := by
  simp [Pod.containersReady, Pod.hasCondition, Condition.isTrue]

theorem onUpdateRevision_iff {pod : Pod} : onUpdateRevision pod update? = true ↔
    (pod.metadata.labelsOrNone.get? revisionLabel).isSome ∧
      pod.metadata.labelsOrNone.get? revisionLabel = update? := by
  unfold onUpdateRevision
  cases pod.metadata.labelsOrNone.get? revisionLabel <;> cases update? <;> simp

theorem isRolling_eq (a : TierAnswers) : a.set.any (·.rolloutInProgress) = a.isRolling := by
  unfold TierAnswers.isRolling
  cases a.set with
  | none => rfl
  | some set =>
    simp only [Option.any_some, Option.bind_some, StatefulSet.rolloutInProgress]
    cases set.status <;> rfl

theorem isDatabase_iff : t.isDatabase = true ↔ t = .database := decide_eq_true_iff

/-- Where the log of a pod is asked for, the checks are those that remain for the pod to count as ready. -/
theorem countsAsReady_iff_of_asked {pod : Pod} {log : String} (hready : pod.containersReady = true)
    (ht : t = .database) :
    (!CrashLog.isBanner log && onUpdateRevision pod update?) = decide (CountsAsReady t update? pod log) := by
  rw [Bool.eq_iff_iff, decide_eq_true_eq, Bool.and_eq_true, Bool.not_eq_true', onUpdateRevision_iff, CountsAsReady,
    ← containersReady_iff]
  simp only [hready, ht, true_and, true_imp_iff]

/-- Where the log of a pod is not asked for, it counts as ready if its containers are. -/
theorem countsAsReady_iff_of_not_asked {pod : Pod} {log : String}
    (hasked : (pod.containersReady && t.isDatabase) = false) :
    decide (CountsAsReady t update? pod log) = pod.containersReady := by
  rw [Bool.eq_iff_iff, decide_eq_true_eq, CountsAsReady, ← containersReady_iff, ← isDatabase_iff]
  cases hready : pod.containersReady with
  | false => simp
  | true =>
    rw [hready, Bool.true_and] at hasked
    simp [hasked]

/-- A pod whose log is not asked for is only looked at. -/
theorem observePod_of_not_asked {pod : Pod} (log : String)
    (hasked : (pod.containersReady && t.isDatabase) = false) :
    (t.observePod ns update? pod : Pass σ PodObservation) =
      pure (TierAnswers.podObservation t update? (pod, log)) := by
  unfold Tier.observePod TierAnswers.podObservation
  simp only [countsAsReady_iff_of_not_asked hasked]
  cases hready : pod.containersReady with
  | false => simp only [Bool.false_eq_true, if_false, pure_bind]
  | true =>
    rw [hready, Bool.true_and] at hasked
    simp only [Tier.passesChecks, hasked, Bool.false_eq_true, if_false, if_true, pure_bind]

/-- Looking at a pod ends well exactly if its log is told where it is asked for. -/
theorem runs_observePod_ok {pod : Pod} {o : PodObservation} :
    (t.observePod ns update? pod).Runs m es (.ok o) m' ↔ m' = m ∧ ∃ log,
      es = TierAnswers.logExchange ns t (pod, log) ∧ o = TierAnswers.podObservation t update? (pod, log) := by
  by_cases hasked : (pod.containersReady && t.isDatabase) = true
  · obtain ⟨hready, hdatabase⟩ := Bool.and_eq_true_iff.1 hasked
    have ht := isDatabase_iff.1 hdatabase
    unfold Tier.observePod TierAnswers.logExchange TierAnswers.podObservation
    simp only [hready, hdatabase, if_true, Bool.and_self, Tier.passesChecks, Recovery.isWaiting, bind_assoc, pure_bind]
    rw [runs_call_bind_ok]
    constructor
    · rintro ⟨log, rest, rfl, hend⟩
      obtain ⟨rfl, ho, rfl⟩ := runs_pure.1 hend
      rw [countsAsReady_iff_of_asked hready ht] at ho
      exact ⟨rfl, log, rfl, Except.ok.inj ho⟩
    · rintro ⟨rfl, log, rfl, rfl⟩
      refine ⟨log, [], rfl, runs_pure.2 ⟨rfl, ?_, rfl⟩⟩
      rw [countsAsReady_iff_of_asked hready ht]
  · rw [Bool.not_eq_true] at hasked
    have hnone (log : String) : TierAnswers.logExchange ns t (pod, log) = [] := by
      simp only [TierAnswers.logExchange, hasked, Bool.false_eq_true, if_false]
    constructor
    · intro h
      rw [observePod_of_not_asked "" hasked] at h
      obtain ⟨rfl, ho, rfl⟩ := runs_pure.1 h
      exact ⟨rfl, "", (hnone "").symm, Except.ok.inj ho⟩
    · rintro ⟨rfl, log, rfl, rfl⟩
      rw [observePod_of_not_asked log hasked, hnone]
      exact runs_pure.2 ⟨rfl, rfl, rfl⟩

/-- The pods of a tier are looked at one after the other. -/
theorem runs_observePods_ok {pods : List Pod} {os : List PodObservation} :
    (pods.mapM (t.observePod ns update?)).Runs m es (.ok os) m' ↔ m' = m ∧ ∃ entries : List (Pod × String),
      entries.map Prod.fst = pods ∧ es = entries.flatMap (TierAnswers.logExchange ns t) ∧
        os = entries.map (TierAnswers.podObservation t update?) := by
  induction pods generalizing m es os with
  | nil =>
    rw [runs_mapM_nil]
    constructor
    · rintro ⟨rfl, hos, rfl⟩
      exact ⟨rfl, [], rfl, rfl, Except.ok.inj hos⟩
    · rintro ⟨rfl, entries, hentries, rfl, rfl⟩
      rw [List.map_eq_nil_iff.1 hentries]
      exact ⟨rfl, rfl, rfl⟩
  | cons pod rest ih =>
    rw [runs_mapM_cons]
    constructor
    · rintro (⟨es₁, es₂, o, m₁, r, rfl, hfirst, hrest, hr⟩ | ⟨e, hr, -⟩)
      · cases r with
        | error e => cases hr
        | ok os' =>
          obtain ⟨rfl, log, rfl, rfl⟩ := runs_observePod_ok.1 hfirst
          obtain ⟨rfl, entries, rfl, rfl, rfl⟩ := ih.1 hrest
          exact ⟨rfl, (pod, log) :: entries, rfl, rfl, Except.ok.inj hr⟩
      · cases hr
    · rintro ⟨rfl, entries, hentries, rfl, rfl⟩
      cases entries with
      | nil => cases hentries
      | cons entry entries =>
        obtain ⟨rfl, rfl⟩ := List.cons.inj hentries
        exact .inl ⟨_, _, _, m', _, rfl, runs_observePod_ok.2 ⟨rfl, entry.2, rfl, rfl⟩,
          ih.2 ⟨rfl, entries, rfl, rfl, rfl⟩, rfl⟩

/-- Looking at a tier ends well exactly if everything is answered. -/
theorem runs_observe_ok {o : TierObservation} :
    (t.observe ns c c.spec.paused).Runs m es (.ok o) m' ↔ m' = m ∧ ∃ a : TierAnswers,
      es = a.exchanges ns c t ∧ o = a.observation c t := by
  unfold Tier.observe
  rw [runs_call_bind_ok]
  constructor
  · rintro ⟨pods, rest, rfl, hrest⟩
    obtain ⟨set, last, rfl, hlast⟩ := runs_call_bind_ok.1 hrest
    obtain ⟨es₁, es₂, os, m₁, rfl, hpods, hend⟩ := runs_bind_ok.1 hlast
    obtain ⟨rfl, entries, rfl, rfl, rfl⟩ := runs_observePods_ok.1 hpods
    obtain ⟨rfl, ho, rfl⟩ := runs_pure.1 hend
    rw [List.append_nil]
    rw [isRolling_eq ⟨entries, set⟩] at ho
    exact ⟨rfl, ⟨entries, set⟩, rfl, Except.ok.inj ho⟩
  · rintro ⟨rfl, a, rfl, rfl⟩
    refine ⟨a.pods.map Prod.fst, _, rfl, runs_call_bind_ok.2 ⟨a.set, _, rfl, runs_bind_ok.2 ?_⟩⟩
    refine ⟨_, [], _, m', (List.append_nil _).symm, runs_observePods_ok.2 ⟨rfl, a.pods, rfl, rfl, rfl⟩, ?_⟩
    rw [runs_pure, isRolling_eq]
    exact ⟨rfl, rfl, rfl⟩

theorem runs_observeIfPresent_ok {o? : Option TierObservation} :
    (t.observeIfPresent ns c).Runs m es (.ok o?) m' ↔ m' = m ∧ ∃ a : TierAnswers,
      es = (if c.hasTier t then a.exchanges ns c t else []) ∧
        o? = if c.hasTier t then some (a.observation c t) else none := by
  unfold Tier.observeIfPresent
  by_cases ht : c.hasTier t = true
  · simp only [ht, if_true]
    rw [runs_bind_ok]
    constructor
    · rintro ⟨es₁, es₂, o, m₁, rfl, hobserve, hend⟩
      obtain ⟨rfl, a, rfl, rfl⟩ := runs_observe_ok.1 hobserve
      obtain ⟨rfl, ho, rfl⟩ := runs_pure.1 hend
      exact ⟨rfl, a, List.append_nil _, Except.ok.inj ho⟩
    · rintro ⟨rfl, a, rfl, rfl⟩
      exact ⟨_, [], _, m', (List.append_nil _).symm, runs_observe_ok.2 ⟨rfl, a, rfl, rfl⟩,
        runs_pure.2 ⟨rfl, rfl, rfl⟩⟩
  · simp only [ht, Bool.false_eq_true, if_false]
    rw [runs_pure]
    constructor
    · rintro ⟨rfl, ho, rfl⟩
      exact ⟨rfl, ⟨[], none⟩, rfl, Except.ok.inj ho⟩
    · rintro ⟨rfl, a, rfl, rfl⟩
      exact ⟨rfl, rfl, rfl⟩

/-- What is learned about all tiers. -/
def observations (c : Cluster) (answers : Tier → TierAnswers) : TierObservations where
  database := (answers .database).observation c .database
  haproxy := if c.hasTier .haproxy then some ((answers .haproxy).observation c .haproxy) else none
  proxysql := if c.hasTier .proxysql then some ((answers .proxysql).observation c .proxysql) else none

/-- The tiers of a cluster, in the order in which they are looked at. -/
theorem flatMap_tiers {β : Type} (f : Tier → List β) : c.tiers.flatMap f =
    f .database ++ ((if c.hasTier .haproxy then f .haproxy else []) ++
      (if c.hasTier .proxysql then f .proxysql else [])) := by
  have hdatabase : c.hasTier .database = true := rfl
  unfold Cluster.tiers Tier.all
  by_cases hhaproxy : c.hasTier .haproxy = true <;> by_cases hproxysql : c.hasTier .proxysql = true <;>
    simp [hdatabase, hhaproxy, hproxysql]

/-- Looking at a cluster ends well exactly if everything is answered about the tiers that the owner asks for. -/
theorem runs_aggregate_ok {result : StatusUpdate × List PodObservation} (hns : c.metadata.ns? = some ns) :
    (aggregate c).Runs m es (.ok result) m' ↔ m' = m ∧ ∃ time answers, es = aggregation ns c time answers ∧
      result = (.observed ((observations c answers).summary ns c time), (observations c answers).database.pods) := by
  unfold aggregate aggregation
  simp only [hns, now]
  rw [runs_ask_bind]
  constructor
  · rintro ⟨time, rest, rfl, hrest⟩
    obtain ⟨es₁, es₂, _, m₁, rfl, hdatabase, hproxies⟩ := runs_bind_ok.1 hrest
    obtain ⟨rfl, database, rfl, rfl⟩ := runs_observe_ok.1 hdatabase
    obtain ⟨es₃, es₄, _, m₂, rfl, hhaproxy, hlast⟩ := runs_bind_ok.1 hproxies
    obtain ⟨rfl, haproxy, rfl, rfl⟩ := runs_observeIfPresent_ok.1 hhaproxy
    obtain ⟨es₅, es₆, _, m₃, rfl, hproxysql, hend⟩ := runs_bind_ok.1 hlast
    obtain ⟨rfl, proxysql, rfl, rfl⟩ := runs_observeIfPresent_ok.1 hproxysql
    obtain ⟨rfl, hresult, rfl⟩ := runs_pure.1 hend
    refine ⟨rfl, time, fun t ↦ t.casesOn database haproxy proxysql, ?_, Except.ok.inj hresult⟩
    rw [List.append_nil, flatMap_tiers]
  · rintro ⟨rfl, time, answers, rfl, rfl⟩
    refine ⟨time, _, rfl, ?_⟩
    rw [flatMap_tiers]
    refine runs_bind_ok.2 ⟨_, _, _, m', rfl, runs_observe_ok.2 ⟨rfl, answers .database, rfl, rfl⟩, ?_⟩
    refine runs_bind_ok.2 ⟨_, _, _, m', rfl, runs_observeIfPresent_ok.2 ⟨rfl, answers .haproxy, rfl, rfl⟩, ?_⟩
    refine runs_bind_ok.2 ⟨_, [], _, m', (List.append_nil _).symm,
      runs_observeIfPresent_ok.2 ⟨rfl, answers .proxysql, rfl, rfl⟩, ?_⟩
    exact runs_pure.2 ⟨rfl, rfl, rfl⟩

theorem toList_observations :
    (observations c answers).toList = c.tiers.map fun t ↦ (t, (answers t).observation c t) := by
  have hdatabase : c.hasTier .database = true := rfl
  unfold observations TierObservations.toList Cluster.tiers Tier.all
  by_cases hhaproxy : c.hasTier .haproxy = true <;> by_cases hproxysql : c.hasTier .proxysql = true <;>
    simp [hdatabase, hhaproxy, hproxysql]

theorem readyCount_observation (a : TierAnswers) : (a.observation c t).readyCount = a.toldCount t := by
  unfold TierObservation.readyCount TierAnswers.observation TierAnswers.toldCount TierAnswers.readyCount
  rw [List.countP_map]
  rfl

theorem state_observation_of_paused (hpaused : c.spec.paused = true) (a : TierAnswers) :
    (a.observation c t).state = if a.toldCount t = 0 then .paused else .stopping := by
  rw [TierObservation.state, readyCount_observation]
  exact if_pos hpaused

theorem state_observation_of_live (hlive : c.spec.paused = false) (a : TierAnswers) :
    (a.observation c t).state = if a.toldCount t = c.sizeOf t then .ready else .initializing := by
  rw [TierObservation.state, readyCount_observation]
  exact if_neg (by rw [TierAnswers.observation, hlive]; exact Bool.false_ne_true)

/-- The states of the tiers, joined, are the reported state. -/
theorem overallState_observations :
    overallState (c.tiers.map fun t ↦ ((answers t).observation c t).state) (c.tiers.any fun t ↦ (answers t).isRolling) =
      reportedState c answers := by
  have hdatabase : Tier.database ∈ c.tiers := List.mem_filter.2 ⟨List.mem_cons_self .., rfl⟩
  unfold reportedState
  cases hpaused : c.spec.paused with
  | true =>
    rw [ClusterState.overallState_of_paused ?_ (List.map_eq_nil_iff.not.2 (List.ne_nil_of_mem hdatabase))]
    · have hsome : (∃ x ∈ c.tiers.map fun t ↦ ((answers t).observation c t).state, x = .stopping) ↔
          ∃ t ∈ c.tiers, (answers t).toldCount t ≠ 0 := by
        simp only [List.mem_map, exists_exists_and_eq_and, state_observation_of_paused hpaused]
        refine exists_congr fun t ↦ and_congr_right fun _ ↦ ?_
        by_cases hnone : (answers t).toldCount t = 0 <;> simp [hnone]
      simp only [hsome, if_true]
    · intro x hx
      obtain ⟨t, -, rfl⟩ := List.mem_map.1 hx
      rw [state_observation_of_paused hpaused]
      exact ite_eq_or_eq _ _ _
  | false =>
    rw [ClusterState.overallState_of_live ?_]
    · have hall : ((∀ x ∈ c.tiers.map fun t ↦ ((answers t).observation c t).state, x = .ready) ∧
          (c.tiers.any fun t ↦ (answers t).isRolling) = false) ↔
            ∀ t ∈ c.tiers, (answers t).toldCount t = c.sizeOf t ∧ (answers t).isRolling = false := by
        rw [List.forall_mem_map, List.any_eq_false, ← forall₂_and]
        refine forall₂_congr fun t _ ↦ and_congr ?_ Bool.eq_false_iff.symm
        rw [state_observation_of_live hpaused]
        by_cases hcount : (answers t).toldCount t = c.sizeOf t <;> simp [hcount]
      simp only [hall, Bool.false_eq_true, if_false]
    · intro x hx
      obtain ⟨t, -, rfl⟩ := List.mem_map.1 hx
      rw [state_observation_of_live hpaused]
      exact ite_eq_or_eq _ _ _

section Numbers

variable {a : TierAnswers}

/-- The count is as large as a size exactly if the number is, unless the number is too large for 32 bits. -/
theorem TierAnswers.toldCount_eq_iff {size : Int32} (h : a.readyCount t < 2 ^ 31) :
    a.toldCount t = size ↔ (a.readyCount t : Int) = size.toInt := by
  rw [← Int32.toInt_inj, toldCount, Int32.toInt_ofNat_of_lt h]

theorem TierAnswers.toldCount_ne_zero_iff (h : a.readyCount t < 2 ^ 31) : a.toldCount t ≠ 0 ↔ 0 < a.readyCount t := by
  rw [Ne, toldCount_eq_iff h, Int32.toInt_zero]
  omega

/-- The reported state is that of the numbers, unless some number is too large for 32 bits. -/
theorem reportedState_eq_stateByNumbers (h : ∀ t ∈ c.tiers, (answers t).readyCount t < 2 ^ 31) :
    reportedState c answers = stateByNumbers c answers := by
  have hsome : (∃ t ∈ c.tiers, (answers t).toldCount t ≠ 0) ↔ ∃ t ∈ c.tiers, 0 < (answers t).readyCount t :=
    exists_congr fun t ↦ and_congr_right fun ht ↦ TierAnswers.toldCount_ne_zero_iff (h t ht)
  have hall : (∀ t ∈ c.tiers, (answers t).toldCount t = c.sizeOf t ∧ (answers t).isRolling = false) ↔
      ∀ t ∈ c.tiers, ((answers t).readyCount t : Int) = (c.sizeOf t).toInt ∧ (answers t).isRolling = false :=
    forall₂_congr fun t ht ↦ and_congr_left' (TierAnswers.toldCount_eq_iff (h t ht))
  simp only [reportedState, stateByNumbers, hsome, hall]

end Numbers

theorem state_summary (time : Instant) :
    ((observations c answers).summary ns c time).state = reportedState c answers := by
  rw [TierObservations.summary, toList_observations, List.map_map, List.map_map, List.any_map]
  exact overallState_observations

/-- What is reported of a pod's readiness: whether some condition says that its containers are ready, the revision that
it was made from, and whether its log ends in a crash banner. -/
def readiness : Pod × String → Bool × Option String × Bool
  | (pod, log) => (pod.containersReady, pod.metadata.labelsOrNone.get? revisionLabel, CrashLog.isBanner log)

/-- Two looks at a tier found as many pods of every readiness, and a StatefulSet that is equally far. -/
structure TierAnswers.SameReadiness (a b : TierAnswers) : Prop where
  pods : (a.pods.map readiness).Perm (b.pods.map readiness)
  updateRevision : b.updateRevision? = a.updateRevision?
  rolling : b.isRolling = a.isRolling

/-- Two clusters are wanted and found alike: both are paused or neither is, the same tiers of the same sizes are asked
for, and their pods are as ready. Nothing else of the clusters or of the answers is the same. -/
structure SameReadiness (c : Cluster) (answers : Tier → TierAnswers) (c' : Cluster) (answers' : Tier → TierAnswers) :
    Prop where
  paused : c'.spec.paused = c.spec.paused
  tiers : c'.tiers = c.tiers
  sizes : ∀ t ∈ c.tiers, c'.sizeOf t = c.sizeOf t
  answers : ∀ t ∈ c.tiers, (answers t).SameReadiness (answers' t)

theorem readyCount_eq_countP_readiness (t : Tier) (a : TierAnswers) :
    a.readyCount t = (a.pods.map readiness).countP fun (ready, revision?, banner) ↦
      ready ∧ (t = .database → banner = false ∧ revision?.isSome ∧ revision? = a.updateRevision?) := by
  rw [TierAnswers.readyCount, List.countP_map]
  refine List.countP_congr fun entry _ ↦ ?_
  rw [Function.comp_apply, decide_eq_true_eq, decide_eq_true_eq, CountsAsReady, ← containersReady_iff]
  rfl

theorem TierAnswers.SameReadiness.readyCount_eq {a b : TierAnswers} (h : a.SameReadiness b) (t : Tier) :
    b.readyCount t = a.readyCount t := by
  rw [readyCount_eq_countP_readiness, readyCount_eq_countP_readiness, h.updateRevision]
  exact (h.pods.countP_eq _).symm

/-- The reported state depends on nothing but how ready the pods are. -/
theorem SameReadiness.reportedState_eq {c' : Cluster} (h : SameReadiness c answers c' answers') :
    reportedState c' answers' = reportedState c answers := by
  have hcount : ∀ t ∈ c.tiers, (answers' t).toldCount t = (answers t).toldCount t :=
    fun t ht ↦ congrArg Int32.ofNat ((h.answers t ht).readyCount_eq t)
  have hsome : (∃ t ∈ c.tiers, (answers' t).toldCount t ≠ 0) ↔ ∃ t ∈ c.tiers, (answers t).toldCount t ≠ 0 :=
    exists_congr fun t ↦ and_congr_right fun ht ↦ by rw [hcount t ht]
  have hall : (∀ t ∈ c.tiers, (answers' t).toldCount t = c'.sizeOf t ∧ (answers' t).isRolling = false) ↔
      ∀ t ∈ c.tiers, (answers t).toldCount t = c.sizeOf t ∧ (answers t).isRolling = false :=
    forall₂_congr fun t ht ↦ by rw [hcount t ht, h.sizes t ht, (h.answers t ht).rolling]
  simp only [reportedState, h.paused, h.tiers, hsome, hall]

/-- Only a cluster with a namespace is looked at to the end. -/
theorem namespaced_of_aggregate {result : StatusUpdate × List PodObservation}
    (h : (aggregate c).Runs m es (.ok result) m') : ∃ ns, c.metadata.ns? = some ns := by
  cases hns : c.metadata.ns? with
  | none =>
    simp only [aggregate, hns] at h
    obtain ⟨-, hr, -⟩ := runs_fail.1 h
    cases hr
  | some ns => exact ⟨ns, rfl⟩

/-- What a look at a cluster reports is determined by what was answered. -/
theorem result_of_aggregation {time : Instant} {result : StatusUpdate × List PodObservation}
    (hns : c.metadata.ns? = some ns) (h : (aggregate c).Runs m (aggregation ns c time answers) (.ok result) m') :
    result = (.observed ((observations c answers).summary ns c time), (observations c answers).database.pods) := by
  have hrun : (aggregate c).Runs m (aggregation ns c time answers)
      (.ok (.observed ((observations c answers).summary ns c time), (observations c answers).database.pods)) m :=
    (runs_aggregate_ok hns).2 ⟨rfl, time, answers, rfl, rfl⟩
  obtain ⟨hresult, -⟩ := Prod.mk.inj (Interaction.Runs.unique hrun h)
  exact Except.ok.inj hresult

theorem state_of_aggregation {time : Instant} {update : StatusUpdate} {pods : List PodObservation}
    (hns : c.metadata.ns? = some ns)
    (h : (aggregate c).Runs m (aggregation ns c time answers) (.ok (update, pods)) m') :
    ∃ o, update = .observed o ∧ o.state = reportedState c answers :=
  ⟨_, (Prod.mk.inj (result_of_aggregation hns h)).1, state_summary time⟩

/-- A look at a cluster that ends well asks the time, and of every tier that the owner asks for its pods, its StatefulSet
and the logs that matter. The state that it reports is that of the answers, by the pods counted in 32 bits, and so by
their numbers if these are in range. It is the same as of any other look that finds the pods of the tiers as ready. -/
theorem aggregate_reports {update : StatusUpdate} {pods : List PodObservation}
    (h : (aggregate c).Runs m es (.ok (update, pods)) m') :
    ∃ ns, c.metadata.ns? = some ns ∧ (∃ time answers, es = aggregation ns c time answers) ∧
      ∀ time answers, es = aggregation ns c time answers →
        (∃ o, update = .observed o ∧ o.state = reportedState c answers) ∧
        ((∀ t ∈ c.tiers, (answers t).readyCount t < 2 ^ 31) → update.state = stateByNumbers c answers) ∧
        ∀ (ns' : String) (c' : Cluster) (time' : Instant) (answers' : Tier → TierAnswers) (n n' : σ)
          (update' : StatusUpdate) (pods' : List PodObservation), c'.metadata.ns? = some ns' →
            (aggregate c').Runs n (aggregation ns' c' time' answers') (.ok (update', pods')) n' →
              SameReadiness c answers c' answers' → update'.state = update.state := by
  obtain ⟨ns, hns⟩ := namespaced_of_aggregate h
  obtain ⟨rfl, time, answers, hes, -⟩ := (runs_aggregate_ok hns).1 h
  refine ⟨ns, hns, ⟨time, answers, hes⟩, ?_⟩
  rintro time answers rfl
  obtain ⟨o, rfl, ho⟩ := state_of_aggregation hns h
  refine ⟨⟨o, rfl, ho⟩, fun hcount ↦ ho.trans (reportedState_eq_stateByNumbers hcount), ?_⟩
  intro ns' c' time' answers' n n' update' pods' hns' h' hsame
  obtain ⟨o', rfl, ho'⟩ := state_of_aggregation hns' h'
  change o'.state = o.state
  rw [ho, ho', hsame.reportedState_eq]

/-- A cluster of two database pods behind a proxy. -/
private def serving : Cluster where
  metadata := { ObjectMeta.empty with name := some "db", ns? := some "prod" }
  spec := ⟨⟨2, "image", true, ⟨none, "1Gi"⟩⟩, some ⟨true, 1, none⟩, none, false, none⟩
  status := none

/-- A pod of the latest revision whose containers are ready. -/
private def servingPod (name : String) : Pod where
  metadata := { ObjectMeta.empty with name := some name, labels := some (.ofList [(revisionLabel, "two")]) }
  status := some ⟨some [⟨none, none, none, none, "True", "ContainersReady"⟩], none, some "Running", []⟩
  carried := []

/-- What is answered about the tiers, with the database pods in some order. -/
private def servingAnswers (database : List String) (t : Tier) : TierAnswers where
  pods := (if t = .database then database else ["db-haproxy-0"]).map fun name ↦
    (servingPod name, "ready for connections")
  set := some ⟨ObjectMeta.empty, none, some ⟨some "one", 2, some "two", some 2, []⟩⟩

/-- Two looks at different times, which list the pods in different orders, report a cluster that is ready, as its few pods
are all counted. -/
theorem aggregate_reports_serving : ∃ update update' pods pods',
    (aggregate serving).Runs () (aggregation "prod" serving ⟨738000, 7200, 5, by decide, by decide⟩
      (servingAnswers ["db-pxc-0", "db-pxc-1"])) (.ok (update, pods)) () ∧
    (aggregate serving).Runs () (aggregation "prod" serving ⟨738000, 7260, 5, by decide, by decide⟩
      (servingAnswers ["db-pxc-1", "db-pxc-0"])) (.ok (update', pods')) () ∧
    (∀ t ∈ serving.tiers, (servingAnswers ["db-pxc-0", "db-pxc-1"] t).readyCount t < 2 ^ 31) ∧
    update.state = .ready ∧ update'.state = update.state := by
  have hns : serving.metadata.ns? = some "prod" := rfl
  have hrun (time : Instant) (order : List String) : ∃ update pods,
      (aggregate serving).Runs () (aggregation "prod" serving time (servingAnswers order)) (.ok (update, pods)) () :=
    ⟨_, _, (runs_aggregate_ok hns).2 ⟨rfl, time, servingAnswers order, rfl, rfl⟩⟩
  obtain ⟨update, pods, hfirst⟩ := hrun ⟨738000, 7200, 5, by decide, by decide⟩ ["db-pxc-0", "db-pxc-1"]
  obtain ⟨update', pods', hsecond⟩ := hrun ⟨738000, 7260, 5, by decide, by decide⟩ ["db-pxc-1", "db-pxc-0"]
  obtain ⟨ns, hns', -, hreports⟩ := aggregate_reports hfirst
  obtain rfl : "prod" = ns := Option.some.inj (hns.symm.trans hns')
  obtain ⟨-, hnumbers, hother⟩ := hreports _ _ rfl
  have hfew : ∀ t ∈ serving.tiers, (servingAnswers ["db-pxc-0", "db-pxc-1"] t).readyCount t < 2 ^ 31 := by
    decide +kernel
  have hready : stateByNumbers serving (servingAnswers ["db-pxc-0", "db-pxc-1"]) = .ready := by decide +kernel
  have hsame : SameReadiness serving (servingAnswers ["db-pxc-0", "db-pxc-1"]) serving
      (servingAnswers ["db-pxc-1", "db-pxc-0"]) := by
    refine ⟨rfl, rfl, fun _ _ ↦ rfl, fun t _ ↦ ⟨?_, rfl, rfl⟩⟩
    cases t <;> decide +kernel
  exact ⟨update, update', pods, pods', hfirst, hsecond, hfew, (hnumbers hfew).trans hready,
    hother _ _ _ _ _ _ _ _ hns hsecond hsame⟩

end GaleraOperator
