import GaleraOperator.Api.Subject
import GaleraOperator.Proofs.Backup.Pruning

/-!
# Retention over a whole pass

Whatever the server refuses, a pass over the schedules of a cluster deletes no record but those that expired, and the newest
ones of every schedule remain.
-/

namespace GaleraOperator.Schedules

open Kube Pass

variable {m m' : Registry} {es : List Exchange} {before after : Store} {ns : String} {c : Cluster} {settings : Settings}

/-- The schedules that the owner of a cluster declares. -/
def schedulesOf (c : Cluster) : List Schedule := (c.spec.backup.map (·.schedules)).getD []

/-- A declared schedule with the name of its job. -/
def withJob (c : Cluster) (schedule : Schedule) : String × Schedule := (jobName c.name schedule.name, schedule)

/-- The schedules that are looked after are those that were declared, if their jobs have different names. -/
theorem mem_declared_iff {entry : String × Schedule} (h : ((schedulesOf c).map (jobName c.name ·.name)).Nodup) :
    entry ∈ (declared c).toList ↔ ∃ schedule ∈ schedulesOf c, withJob c schedule = entry := by
  cases hbackup : c.spec.backup with
  | none => simp [declared, schedulesOf, hbackup, Dict.empty]
  | some backup =>
    simp only [schedulesOf, hbackup, Option.map_some, Option.getD_some] at h
    simp only [declared, schedulesOf, hbackup, Option.map_some, Option.getD_some]
    rw [Dict.mem_ofList_iff (by simpa [List.map_map, Function.comp_def] using h), List.mem_map]
    rfl

/-- A call that is not about records of backups. -/
def IsJobCall (call : Call) : Prop := call.operation ≠ .listBackups ∧ call.operation ≠ .deleteBackup

theorem not_isJobCall_deleteBackup {name : String} : ¬ IsJobCall (.deleteBackup ns name) := fun h ↦ h.2 rfl

/-- The operations by which jobs are looked after. -/
def jobOperations : List Operation := [.listCronJobs, .getCronJob, .createCronJob, .replaceCronJob, .deleteCronJob]

theorem isJobCall_of_operation (call : Call) (h : call.operation ∈ jobOperations) : IsJobCall call := by
  constructor
  all_goals
    intro heq
    rw [heq] at h
    exact absurd h (by decide)

section Asks

variable {P : Call → Prop} (hP : ∀ call : Call, call.operation ∈ jobOperations → P call)

include hP

theorem asks_applyJob (desired : CronJob) : Asks P (applyJob (σ := Registry) ns desired) := by
  refine (Asks.call (hP _ (by simp [Call.operation, jobOperations]))).bind fun existing? ↦ ?_
  cases existing? with
  | none => exact (Asks.call (hP _ (by simp [Call.operation, jobOperations]))).bind fun _ ↦ .pure _
  | some existing =>
    by_cases hsame : Backup.upToDate existing desired
    · simp only [hsame, if_true]
      exact .pure _
    · simp only [hsame, Bool.false_eq_true, if_false]
      exact (Asks.call (hP _ (by simp [Call.operation, jobOperations]))).bind fun _ ↦ .pure _

theorem asks_applySchedule (backup : BackupSpec) (schedule : Schedule) :
    Asks P (applySchedule settings ns c backup schedule) := by
  unfold applySchedule
  cases plan? backup schedule with
  | none => exact .pure _
  | some plan =>
    refine Asks.get.bind fun registry ↦ ?_
    split
    · exact .pure _
    · exact (asks_applyJob hP _).bind fun change ↦ (Asks.modify _).bind fun _ ↦ .pure _

theorem asks_applyAll : Asks P (applyAll settings ns c) := by
  unfold applyAll
  cases c.spec.backup with
  | none => exact .pure _
  | some backup => exact .mapM (asks_applySchedule hP backup) _

theorem asks_listJobs : Asks P (listJobs (σ := Registry) ns c) :=
  (Asks.call (hP _ (by simp [Call.operation, jobOperations]))).bind fun _ ↦ .pure _

theorem asks_deleteJobs (jobs : List String) : Asks P (deleteJobs (σ := Registry) ns jobs) :=
  .forM (fun _ ↦ .call (hP _ (by simp [Call.operation, jobOperations]))) _

end Asks

/-- What a pass does about jobs, before it looks after records. -/
def alignJobs (settings : Settings) (ns : String) (c : Cluster) : Pass Registry (List JobChange × List String) := do
  let listed ← listJobs ns c
  remember (·.retain listed.contains)
  let changes ← applyAll settings ns c
  let undeclared := listed.filter fun job ↦ !(declared c).contains job
  deleteJobs ns undeclared
  remember (·.retain (declared c).contains)
  return (changes, undeclared)

/-- What a pass does about records. -/
def pruneAll (ns : String) (c : Cluster) (changes : List JobChange) (undeclared : List String) :
    Pass Registry ScheduleOutcome := do
  let pruned ← (declared c).toList.mapM (pruneDeclared ns c.name)
  if 0 < total pruned then measure ns c.name (.pruned (total pruned))
  return {
    created := changes.count .created
    updated := changes.count .updated
    removed := undeclared.length
    pruned := total pruned }

/-- A pass looks after jobs first and after records then. -/
theorem reconcile_eq (hns : c.metadata.ns? = some ns) :
    reconcile settings c = alignJobs settings ns c >>= fun (changes, undeclared) ↦ pruneAll ns c changes undeclared := by
  simp only [reconcile, hns, alignJobs, pruneAll, bind_assoc, pure_bind]

/-- Looking after jobs takes no other operations than those on jobs. -/
theorem asks_alignJobs_of_operation {P : Call → Prop} (hP : ∀ call : Call, call.operation ∈ jobOperations → P call) :
    Asks P (alignJobs settings ns c) :=
  (asks_listJobs hP).bind fun _ ↦ (Asks.modify _).bind fun _ ↦ (asks_applyAll hP).bind fun _ ↦
    (asks_deleteJobs hP _).bind fun _ ↦ (Asks.modify _).bind fun _ ↦ .pure _

theorem asks_alignJobs : Asks IsJobCall (alignJobs settings ns c) :=
  asks_alignJobs_of_operation isJobCall_of_operation

/-- Looking after records does not fail, and asks for every schedule that the expired records be deleted. -/
theorem runs_pruneAll {changes : List JobChange} {undeclared : List String} {r : Except Failure ScheduleOutcome}
    (h : (pruneAll ns c changes undeclared).Runs m es r m') (hs : before.Serves es after)
    (hnamed : UniquelyNamed ns before.backups) (hcluster : ',' ∉ c.name.toList)
    (hjobs : ∀ entry ∈ (declared c).toList, ',' ∉ entry.1.toList) :
    (∃ outcome, r = .ok outcome ∧ outcome.pruned = (deletedNames es).length) ∧
      PrunedAll ns c.name (declared c).toList before es := by
  have hkeys := Dict.nodup_keys (declared c)
  rcases runs_bind.1 h with ⟨last, rest, counts, m₁, rfl, hprune, hmeasure⟩ | ⟨f, rfl, hprune⟩
  · obtain ⟨u, hs₁, -⟩ := Store.serves_append.1 hs
    obtain ⟨rfl, ⟨_, hcounts, htotal⟩, hdeletes, hcomplete⟩ :=
      runs_pruneEntries hprune hs₁ hnamed hkeys hcluster hjobs
    cases hcounts
    have hquiet : calls rest = [] ∧ deletedNames rest = [] ∧ ∃ outcome, r = .ok outcome ∧
        outcome.pruned = total counts := by
      by_cases hpruned : 0 < total counts
      · simp only [hpruned, if_true] at hmeasure
        obtain ⟨reply, rest', rfl, hend⟩ := runs_ask_bind.1 hmeasure
        obtain ⟨rfl, rfl, -⟩ := runs_pure.1 hend
        exact ⟨rfl, rfl, _, rfl, rfl⟩
      · simp only [hpruned, if_false] at hmeasure
        obtain ⟨rfl, rfl, -⟩ := runs_pure.1 hmeasure
        exact ⟨rfl, rfl, _, rfl, rfl⟩
    obtain ⟨hcalls, hnames, outcome, rfl, houtcome⟩ := hquiet
    refine ⟨⟨outcome, rfl, by rw [deletedNames_append, hnames, List.append_nil, houtcome, htotal]⟩, ?_, ?_⟩
    · simpa only [calls_append, hcalls, List.append_nil] using hdeletes
    · intro entry hentry hkeeps
      obtain ⟨reply, hlisted, hasked⟩ := hcomplete entry hentry hkeeps
      exact ⟨reply, List.mem_append_left _ hlisted, by simpa only [calls_append, hcalls, List.append_nil] using hasked⟩
  · obtain ⟨-, ⟨_, hcounts, -⟩, -⟩ := runs_pruneEntries hprune hs hnamed hkeys hcluster hjobs
    cases hcounts

/-- Which records of the declared schedules of a cluster remain. -/
structure Kept (ns : String) (c : Cluster) (before after : Store) : Prop where
  /-- The newest succeeded records of a schedule remain, as many as it keeps. -/
  newest : ∀ schedule ∈ schedulesOf c, ∀ b ∈ succeededOf before ns c.name (withJob c schedule).1,
    Backup.newerCount (succeededOf before ns c.name (withJob c schedule).1) b < schedule.keep.toNat → b ∈ after.backups
  enough : ∀ schedule ∈ schedulesOf c,
    min schedule.keep.toNat (succeededOf before ns c.name (withJob c schedule).1).length ≤
      (succeededOf after ns c.name (withJob c schedule).1).length
  /-- Schedules that keep everything lose nothing, and neither does what is not declared. -/
  spared : ∀ b ∈ before.backups, (∀ schedule ∈ schedulesOf c, schedule.keep ≠ 0 →
    b ∉ succeededOf before ns c.name (withJob c schedule).1) → b ∈ after.backups

/-- Only expired records of declared schedules are asked to be deleted. -/
def OnlyExpired (ns : String) (c : Cluster) (before : Store) (es : List Exchange) : Prop :=
  ∀ ns' name, .deleteBackup ns' name ∈ calls es →
    ns' = ns ∧ ∃ schedule ∈ schedulesOf c, ∃ b, IsExpired before ns c.name (withJob c schedule) b ∧ b.name = name

/-- What a pass over the schedules of a cluster does to the records of backups. -/
structure Retained (ns : String) (c : Cluster) (before : Store) (es : List Exchange) (r : Except Failure ScheduleOutcome)
    (after : Store) : Prop where
  deletes : OnlyExpired ns c before es
  kept : Kept ns c before after
  /-- Once the jobs are aligned, every schedule has its turn, whatever is refused to the others. -/
  complete : ∀ outcome, r = .ok outcome → ∀ schedule ∈ schedulesOf c, schedule.keep ≠ 0 →
    ∃ reply, ⟨.call (.listBackups ns (recordLabels c.name (withJob c schedule).1).selector), reply⟩ ∈ es ∧
      ∀ records, reply = .ok records → records = recordsOf before ns c.name (withJob c schedule).1 ∧
        ∀ b, IsExpired before ns c.name (withJob c schedule) b → .deleteBackup ns b.name ∈ calls es
  /-- A pass that fails does so before it looks at records. -/
  halted : ∀ f, r = .error f → ∀ call ∈ calls es, IsJobCall call
  pruned : ∀ outcome, r = .ok outcome → outcome.pruned = (deletedNames es).length

/-- A record of which no deletion was asked remains. -/
theorem mem_backups_of_not_asked {b : Backup} (hs : before.Serves es after) (hnamed : UniquelyNamed ns before.backups)
    (hns : ∀ ns' name, .deleteBackup ns' name ∈ calls es → ns' = ns) (hb : b ∈ before.backups)
    (hnot : Objects.namespaceOf b = ns → .deleteBackup ns b.name ∉ calls es) : b ∈ after.backups := by
  rw [hs.backups_eq hns, List.mem_filter]
  refine ⟨hb, ?_⟩
  rw [Bool.not_eq_true', Bool.and_eq_false_iff]
  by_cases hnamespace : Objects.namespaceOf b = ns
  · refine .inr (Bool.eq_false_iff.2 fun hdeleted ↦ hnot hnamespace ?_)
    obtain ⟨ns', hmem⟩ := mem_deletedNames (List.contains_iff_mem.1 hdeleted)
    obtain rfl := hns ns' _ hmem
    rwa [hnamed.nameOf_eq hb hnamespace] at hmem
  · exact .inl (decide_eq_false hnamespace)

/-- If only expired records are asked to be deleted, the newest ones remain. -/
theorem kept_of_deletes (hs : before.Serves es after) (hnamed : UniquelyNamed ns before.backups)
    (hjobs : ((schedulesOf c).map (jobName c.name ·.name)).Nodup) (deletes : OnlyExpired ns c before es) :
    Kept ns c before after := by
  have hns := fun ns' name hmem ↦ (deletes ns' name hmem).1
  -- A record that is asked to be deleted is an expired one of the schedule whose label it carries.
  have hexpired : ∀ b ∈ before.backups, Objects.namespaceOf b = ns → .deleteBackup ns b.name ∈ calls es →
      ∃ schedule ∈ schedulesOf c, IsExpired before ns c.name (withJob c schedule) b := by
    intro b hb hnamespace hasked
    obtain ⟨-, schedule, hschedule, b', hb', hname⟩ := deletes ns b.name hasked
    obtain ⟨hmem', hnamespace', -⟩ := mem_recordsOf.1 (List.mem_of_mem_filter hb'.1)
    obtain rfl := hnamed.eq_of_name_eq hmem' hb hnamespace' hnamespace hname
    exact ⟨schedule, hschedule, hb'⟩
  have newest : ∀ schedule ∈ schedulesOf c, ∀ b ∈ succeededOf before ns c.name (withJob c schedule).1,
      Backup.newerCount (succeededOf before ns c.name (withJob c schedule).1) b < schedule.keep.toNat →
        b ∈ after.backups := by
    intro schedule hschedule b hb hnewer
    obtain ⟨hmem, hnamespace, -, hjob⟩ := mem_recordsOf.1 (List.mem_of_mem_filter hb)
    refine mem_backups_of_not_asked hs hnamed hns hmem fun _ hasked ↦ ?_
    obtain ⟨schedule', hschedule', hrecord', -, hkeep⟩ := hexpired b hmem hnamespace hasked
    obtain ⟨-, -, -, hjob'⟩ := mem_recordsOf.1 (List.mem_of_mem_filter hrecord')
    obtain rfl : schedule' = schedule :=
      List.inj_on_of_nodup_map hjobs hschedule' hschedule (Option.some.inj (hjob'.symm.trans hjob))
    exact Nat.not_le_of_lt hnewer hkeep
  refine ⟨newest, fun schedule hschedule ↦ ?_, fun b hb hnone ↦ ?_⟩
  · have hbefore := newest schedule hschedule
    have hnames : ((succeededOf before ns c.name (withJob c schedule).1).map Backup.name).Nodup :=
      hnamed.recordsOf.sublist (List.filter_sublist.map _)
    rw [← Backup.countP_newerCount schedule.keep.toNat hnames]
    have hafter : succeededOf after ns c.name (withJob c schedule).1 =
        (succeededOf before ns c.name (withJob c schedule).1).filter fun b ↦
          !(Objects.namespaceOf b = ns && (deletedNames es).contains (Objects.nameOf b)) := by
      simp only [succeededOf, recordsOf, hs.backups_eq hns, List.filter_filter, Bool.and_comm, Bool.and_left_comm]
    rw [hafter, ← List.countP_eq_length_filter]
    refine List.countP_mono_left fun b hb hnewer ↦ ?_
    have hmem := hbefore b hb (of_decide_eq_true hnewer)
    rw [hs.backups_eq hns] at hmem
    exact (List.mem_filter.1 hmem).2
  · refine mem_backups_of_not_asked hs hnamed hns hb fun hnamespace hasked ↦ ?_
    obtain ⟨schedule, hschedule, hrecord, hpos, -⟩ := hexpired b hb hnamespace hasked
    refine hnone schedule hschedule (fun hzero ↦ ?_) hrecord
    exact absurd hpos (by simp [withJob, hzero])

/-- Whatever the server refuses, a pass over the schedules of a cluster deletes expired records only. -/
theorem reconcile_retained {r : Except Failure ScheduleOutcome} (h : (reconcile settings c).Runs m es r m')
    (hs : before.Serves es after) (hnamed : UniquelyNamed (Objects.namespaceOf c) before.backups)
    (hjobs : ((schedulesOf c).map (jobName c.name ·.name)).Nodup) (hcluster : ',' ∉ c.name.toList)
    (hlegal : ∀ schedule ∈ schedulesOf c, ',' ∉ (jobName c.name schedule.name).toList) :
    Retained (Objects.namespaceOf c) c before es r after := by
  have hlost {es : List Exchange} {f : Failure} {after : Store} (hs : before.Serves es after)
      (hjob : ∀ call ∈ calls es, IsJobCall call) :
      Retained (Objects.namespaceOf c) c before es (.error f) after := by
    have hdeletes : OnlyExpired (Objects.namespaceOf c) c before es :=
      fun _ _ hmem ↦ absurd (hjob _ hmem) not_isJobCall_deleteBackup
    refine ⟨hdeletes, kept_of_deletes hs hnamed hjobs hdeletes, ?_, fun _ _ ↦ hjob, ?_⟩
    · rintro _ ⟨⟩
    · rintro _ ⟨⟩
  cases hns : c.metadata.ns? with
  | none =>
    simp only [reconcile, hns] at h
    obtain ⟨rfl, rfl, rfl⟩ := runs_fail.1 h
    exact hlost hs (by simp)
  | some ns =>
    have hnamespace : Objects.namespaceOf c = ns := congrArg (Option.getD · "") hns
    rw [hnamespace] at hnamed hlost ⊢
    rw [reconcile_eq hns] at h
    rcases runs_bind.1 h with ⟨first, last, changes, m₁, rfl, halign, hprune⟩ | ⟨f, rfl, halign⟩
    · obtain ⟨u, hs₁, hs₂⟩ := Store.serves_append.1 hs
      have hjob := asks_alignJobs _ _ _ _ halign
      have hnone : deletedNames first = [] := List.eq_nil_iff_forall_not_mem.2 fun name hname ↦ by
        obtain ⟨ns', hmem⟩ := mem_deletedNames hname
        exact not_isJobCall_deleteBackup (hjob _ hmem)
      -- Calls about jobs leave the records as they are.
      have hsame : u.backups = before.backups := by
        have hdeletes : ∀ ns' name, .deleteBackup ns' name ∈ calls first → ns' = ns :=
          fun _ _ hmem ↦ absurd (hjob _ hmem) not_isJobCall_deleteBackup
        rw [hs₁.backups_eq hdeletes, hnone]
        exact List.filter_eq_self.2 fun b _ ↦ by simp
      have hlegal' : ∀ entry ∈ (declared c).toList, ',' ∉ entry.1.toList := by
        intro entry hentry
        obtain ⟨schedule, hschedule, rfl⟩ := (mem_declared_iff hjobs).1 hentry
        exact hlegal schedule hschedule
      obtain ⟨⟨outcome, rfl, hpruned⟩, hall⟩ := runs_pruneAll hprune hs₂ (hsame ▸ hnamed) hcluster hlegal'
      obtain ⟨hdeletes, hcomplete⟩ := hall.congr (t := before) fun entry _ ↦ by simp only [recordsOf, hsame]
      have honly : OnlyExpired ns c before (first ++ last) := by
        intro ns' name hmem
        rcases mem_calls_append.1 hmem with hmem | hmem
        · exact absurd (hjob _ hmem) not_isJobCall_deleteBackup
        · obtain ⟨hns', entry, hentry, hb⟩ := hdeletes ns' name hmem
          obtain ⟨schedule, hschedule, rfl⟩ := (mem_declared_iff hjobs).1 hentry
          exact ⟨hns', schedule, hschedule, hb⟩
      refine ⟨honly, kept_of_deletes hs hnamed hjobs honly, fun _ _ schedule hschedule hkeeps ↦ ?_, ?_, ?_⟩
      · obtain ⟨reply, hlisted, hasked⟩ :=
          hcomplete _ ((mem_declared_iff hjobs).2 ⟨schedule, hschedule, rfl⟩) hkeeps
        refine ⟨reply, List.mem_append_right _ hlisted, fun records hr ↦ ?_⟩
        obtain ⟨hlist, hexpired⟩ := hasked records hr
        exact ⟨hlist, fun b hb ↦ mem_calls_append.2 (.inr (hexpired b hb))⟩
      · rintro _ ⟨⟩
      · rintro _ ⟨⟩
        rw [deletedNames_append, hnone, List.nil_append, hpruned]
    · exact hlost hs (asks_alignJobs _ _ _ _ halign)

/-- A cluster of which the latest nightly backup is kept. -/
private def nightly : Cluster where
  metadata := { ObjectMeta.empty with name := some "db", ns? := some "prod" }
  spec := ⟨⟨1, "image", true, ⟨none, "1Gi"⟩⟩, none, none, false,
    some ⟨"image", .empty, [⟨"nightly", "0 0 * * *", 1, "s3"⟩]⟩⟩
  status := none

/-- A record of a nightly backup that succeeded. -/
private def nightlyRecord (name : String) : Backup :=
  ⟨{ ObjectMeta.empty with name := some name, ns? := some "prod",
                           labels := some (recordLabels "db" (jobName "db" "nightly")) },
    ⟨"db", "s3"⟩, some ⟨.succeeded, none, none⟩⟩

private def nightlyStore : Store := { Store.empty with backups := [nightlyRecord "first", nightlyRecord "second"] }

/-- Of two records the older one is deleted. -/
theorem reconcile_retained_one : ∃ es after,
    (reconcile .standard nightly).Runs .empty es (.ok ⟨0, 0, 0, 1⟩) .empty ∧ nightlyStore.Serves es after ∧
      Retained "prod" nightly nightlyStore es (.ok ⟨0, 0, 0, 1⟩) after := by
  have hends : ((reconcile .standard nightly).runIn (Store.surroundings ⟨0, 0, 0, by decide, by decide⟩) .empty
      nightlyStore).1 = (.ok ⟨0, 0, 0, 1⟩, .empty) := by
    decide +kernel
  have hrun := runs_courseIn (reconcile .standard nightly) (Store.surroundings ⟨0, 0, 0, by decide, by decide⟩) .empty
    nightlyStore
  rw [hends] at hrun
  have hserves := Store.serves_course ⟨0, 0, 0, by decide, by decide⟩ ((reconcile .standard nightly).run.run .empty)
    nightlyStore
  have hnamed : UniquelyNamed (Objects.namespaceOf nightly) nightlyStore.backups := by
    constructor <;> decide +kernel
  exact ⟨_, _, hrun, hserves, reconcile_retained hrun hserves hnamed (by decide +kernel) (by decide +kernel)
    (by decide +kernel)⟩

end GaleraOperator.Schedules
