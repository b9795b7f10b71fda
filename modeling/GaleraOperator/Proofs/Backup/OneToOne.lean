import GaleraOperator.Proofs.Backup.Convergence
import GaleraOperator.Proofs.Naming

/-!
# Schedules and jobs, one to one

Every declared schedule is to have a job of its own. What tells the schedules of a cluster apart are their names, but
the name of a job has room for only the beginning of a schedule's name after a long name of a cluster. Schedules whose
names begin alike are then brought in line in one and the same job, one after the other, and the job is left as the last
of them declares it. So a pass that ends well has given every schedule a job of its own exactly if the names of the
schedules differ in the room that is left for them.
-/

namespace GaleraOperator

open Kube Pass

theorem Backup.schedule_of_upToDate {existing desired : CronJob} (h : Backup.upToDate existing desired = true) :
    existing.spec.map (·.schedule) = desired.spec.map (·.schedule) := by
  unfold Backup.upToDate at h
  split at h
  · next current wanted _ _ hcurrent hwanted _ _ =>
    simp only [Bool.and_eq_true, decide_eq_true_eq] at h
    rw [hcurrent, hwanted, Option.map_some, Option.map_some, h.1.2]
  · cases h

namespace Schedules

variable {settings : Settings} {account : Option String} {ns name : String} {c : Cluster} {es : List Exchange}
  {s t : Store} {registry registry' : Registry} {jobs : Objects CronJob} {schedule : Schedule}
  {schedules schedules' : List Schedule} {stored : CronJob} {outcome : ScheduleOutcome}

theorem strict_applyJob (desired : CronJob) : Strict (applyJob (σ := Registry) ns desired) := by
  refine (Strict.call _).bind fun existing? ↦ ?_
  cases existing? with
  | none => exact (Strict.call _).bind fun _ ↦ .pure _
  | some existing =>
    by_cases hsame : Backup.upToDate existing desired
    · simp only [hsame, if_true]
      exact .pure _
    · simp only [hsame, Bool.false_eq_true, if_false]
      exact (Strict.call _).bind fun _ ↦ .pure _

theorem strict_applySchedule (backup : BackupSpec) (schedule : Schedule) :
    Strict (applySchedule settings ns c backup schedule) := by
  unfold applySchedule
  cases plan? backup schedule with
  | none => exact .pure _
  | some plan =>
    refine Strict.get.bind fun registry ↦ ?_
    split
    · exact .pure _
    · exact (strict_applyJob _).bind fun change ↦ (Strict.modify _).bind fun _ ↦ .pure _

/-- Looking after jobs ends well only if nothing was refused. -/
theorem strict_alignJobs : Strict (alignJobs settings ns c) := by
  have happly : Strict (applyAll settings ns c) := by
    unfold applyAll
    cases c.spec.backup with
    | none => exact .pure []
    | some backup => exact .mapM (strict_applySchedule backup) _
  have hlist : Strict (listJobs (σ := Registry) ns c) := (Strict.call _).bind fun _ ↦ .pure _
  have hdelete (names : List String) : Strict (deleteJobs (σ := Registry) ns names) := .forM (fun _ ↦ .call _) names
  exact hlist.bind fun listed ↦ (Strict.modify _).bind fun _ ↦ happly.bind fun changes ↦
    (hdelete _).bind fun _ ↦ (Strict.modify _).bind fun _ ↦ .pure _

/-- A pass that ends well leaves the jobs that are computed from those that it finds. -/
theorem cronJobs_of_reconcile_ok (h : (reconcile settings c).Runs registry es (.ok outcome) registry')
    (hs : s.Serves es t) (hns : c.metadata.ns? = some ns)
    (hbelieved : Believable ns c (registry.retain (listedJobs ns c s.cronJobs).contains) s.cronJobs) :
    t.cronJobs = jobsLeft settings.serviceAccount ns c s.cronJobs := by
  rw [reconcile_eq hns] at h
  obtain ⟨es₁, es₂, report, registry₁, rfl, halign, hprune⟩ := runs_bind_ok.1 h
  obtain ⟨u, hs₁, hs₂⟩ := Store.serves_append.1 hs
  obtain ⟨-, -, hu⟩ := runs_alignJobs_steps halign hs₁ (strict_alignJobs _ _ _ _ halign) hns hbelieved
  rw [cronJobs_of_pruneAll hprune hs₂, hu]

theorem jobSteps_append : jobSteps account ns c (schedules ++ schedules') jobs =
    jobSteps account ns c schedules jobs ++
      jobSteps account ns c schedules' (afterSteps (jobSteps account ns c schedules jobs) jobs) := by
  induction schedules generalizing jobs with
  | nil => rfl
  | cons first rest ih =>
    rw [List.cons_append, jobSteps, jobSteps, ih]
    rfl

theorem afterSteps_append (steps steps' : List JobStep) (jobs : Objects CronJob) :
    afterSteps (steps ++ steps') jobs = afterSteps steps' (afterSteps steps jobs) :=
  List.foldl_append

/-- Schedules by the names of their jobs; of schedules with one job the last counts. -/
def byJob (c : Cluster) (schedules : List Schedule) : Dict Schedule :=
  .ofList (schedules.map (withJob c))

theorem declared_eq : declared c = byJob c (schedulesOf c) := by
  cases hbackup : c.spec.backup with
  | none => simp only [declared, byJob, schedulesOf, hbackup]; rfl
  | some backup => simp only [declared, byJob, schedulesOf, hbackup]; rfl

/-- After all steps a job is held as the last of its schedules declares it. -/
theorem find?_afterSteps_byJob (account : Option String) (jobs : Objects CronJob) (hns : c.metadata.ns? = some ns)
    (hplans : ∀ s ∈ schedules, (planOf c s).isSome) (hlast : (byJob c schedules).get? name = some schedule) :
    ∃ plan stored, planOf c schedule = some plan ∧
      (afterSteps (jobSteps account ns c schedules jobs) jobs).find? ns name = some stored ∧
      Backup.upToDate stored (Backup.cronJob c plan account) = true := by
  induction schedules using List.reverseRecOn with
  | nil => cases hlast
  | append_singleton before last ih =>
    rw [byJob, List.map_append, List.map_singleton, Dict.ofList_append_singleton, Dict.get?_insert] at hlast
    rw [jobSteps_append, afterSteps_append]
    split at hlast
    · next hname =>
      obtain rfl := Option.some.inj hlast
      obtain ⟨plan, hplan⟩ := Option.isSome_iff_exists.1 (hplans last (by simp))
      obtain ⟨stored, hfound, hsame⟩ :=
        find?_step_self account hns hplan (afterSteps (jobSteps account ns c before jobs) jobs)
      rw [hname]
      exact ⟨plan, stored, hplan, hfound, hsame⟩
    · next hname =>
      obtain ⟨plan, stored, hplan, hfound, hsame⟩ := ih (fun s hs ↦ hplans s (by simp [hs])) hlast
      refine ⟨plan, stored, hplan, ?_, hsame⟩
      exact (find?_step_of_ne hns (Ne.symm hname) _ _).trans hfound

/-- The job that is left under the name of a schedule's job is as the last schedule of that name declares it. -/
theorem labelledAs_jobsLeft (hns : c.metadata.ns? = some ns) (hnamed : Objects.Named jobs)
    (hdistinct : Objects.Distinct jobs) (hplans : ∀ s ∈ schedulesOf c, (planOf c s).isSome)
    (hlast : (declared c).get? name = some schedule) :
    ∃ stored, labelledAs ns c name (jobsLeft account ns c jobs) = [stored] ∧
      stored.spec.map (·.schedule) = some schedule.schedule := by
  rw [declared_eq] at hlast
  obtain ⟨plan, stored, hplan, hfound, hsame⟩ := find?_afterSteps_byJob account jobs hns hplans hlast
  have hdeclared : (declared c).contains name = true := by
    rw [Dict.contains, declared_eq, hlast]
    rfl
  have hleft : (jobsLeft account ns c jobs).find? ns name = some stored := by
    obtain ⟨last, hmem, rfl⟩ := List.mem_map.1 (contains_declared_iff.1 hdeclared)
    rw [jobsLeft, find?_withoutJobs (not_mem_undeclaredJobs hmem), hfound]
  refine ⟨stored, ?_, ?_⟩
  · rw [labelledAs_eq (named_jobsLeft hnamed) (distinct_jobsLeft hdistinct), hleft]
    simp [Option.filter, belongsTo_of_upToDate hsame]
  · rw [Backup.schedule_of_upToDate hsame, ← schedule_of_planOf hplan]
    rfl

/-- The jobs that the schedules of a cluster have, each one of its own: they carry the label of the cluster and run when
the schedules say. -/
structure OneToOne (ns : String) (c : Cluster) (jobs : Objects CronJob) (jobOf : Schedule → CronJob) : Prop where
  held : ∀ schedule ∈ schedulesOf c, jobOf schedule ∈ labelled ns c jobs
  runs : ∀ schedule ∈ schedulesOf c, (jobOf schedule).spec.map (·.schedule) = some schedule.schedule
  apart : ∀ schedule ∈ schedulesOf c, ∀ schedule' ∈ schedulesOf c,
    jobOf schedule = jobOf schedule' → schedule = schedule'

/-- Jobs that carry the label have declared names, which tell them apart, so there are no more of them than names. -/
theorem OneToOne.nodup {jobOf : Schedule → CronJob} (h : OneToOne ns c (jobsLeft account ns c jobs) jobOf)
    (hns : c.metadata.ns? = some ns) (hcluster : ',' ∉ c.name.toList) (hnamed : Objects.Named jobs)
    (hdistinct : Objects.Distinct jobs) (hschedules : (schedulesOf c).Nodup) :
    ((schedulesOf c).map (jobName c.name ·.name)).Nodup := by
  have hheld {job : CronJob} (hmem : job ∈ labelled ns c (jobsLeft account ns c jobs)) :
      (jobsLeft account ns c jobs).find? ns job.name = some job :=
    find?_of_mem_labelled (named_jobsLeft hnamed) (distinct_jobsLeft hdistinct) hmem
  have hown : ((schedulesOf c).map fun schedule ↦ (jobOf schedule).name).Nodup := by
    refine (List.nodup_map_iff_inj_on hschedules).2 fun schedule hmem schedule' hmem' hname ↦ ?_
    refine h.apart schedule hmem schedule' hmem' ?_
    have hfound := hheld (h.held schedule hmem)
    rw [hname, hheld (h.held schedule' hmem')] at hfound
    exact (Option.some.inj hfound).symm
  have hsub : (schedulesOf c).map (fun schedule ↦ (jobOf schedule).name) ⊆
      (schedulesOf c).map (jobName c.name ·.name) := by
    intro name hname
    obtain ⟨schedule, hmem, rfl⟩ := List.mem_map.1 hname
    exact declared_of_mem_jobsLeft hns hcluster hnamed hdistinct (h.held schedule hmem)
  have hperm := (List.subperm_of_subset hown hsub).perm_of_length_le (by simp)
  exact hperm.nodup_iff.1 hown

/-- Schedules whose jobs have different names have jobs of their own. -/
theorem oneToOne_of_nodup (hns : c.metadata.ns? = some ns) (hnamed : Objects.Named jobs)
    (hdistinct : Objects.Distinct jobs) (hplans : ∀ s ∈ schedulesOf c, (planOf c s).isSome)
    (hnodup : ((schedulesOf c).map (jobName c.name ·.name)).Nodup) :
    ∃ jobOf, OneToOne ns c (jobsLeft account ns c jobs) jobOf := by
  have hjob : ∀ schedule ∈ schedulesOf c, ∃ stored,
      labelledAs ns c (jobName c.name schedule.name) (jobsLeft account ns c jobs) = [stored] ∧
        stored.spec.map (·.schedule) = some schedule.schedule := by
    intro schedule hmem
    refine labelledAs_jobsLeft hns hnamed hdistinct hplans ?_
    exact Dict.mem_toList_iff.1 ((mem_declared_iff hnodup).2 ⟨schedule, hmem, rfl⟩)
  have : Nonempty CronJob := ⟨⟨.empty, none, []⟩⟩
  choose! jobOf hheld hruns using hjob
  have hlabelled : ∀ schedule ∈ schedulesOf c, jobOf schedule ∈ labelled ns c (jobsLeft account ns c jobs) ∧
      (jobOf schedule).name = jobName c.name schedule.name := by
    intro schedule hmem
    have hself : jobOf schedule ∈ labelledAs ns c (jobName c.name schedule.name) (jobsLeft account ns c jobs) := by
      rw [hheld schedule hmem]
      exact List.mem_singleton_self _
    exact (List.mem_filter.1 hself).imp_right of_decide_eq_true
  refine ⟨jobOf, fun schedule hmem ↦ (hlabelled schedule hmem).1, hruns, fun schedule hmem schedule' hmem' heq ↦ ?_⟩
  refine List.inj_on_of_nodup_map hnodup hmem hmem' ?_
  rw [← (hlabelled schedule hmem).2, ← (hlabelled schedule' hmem').2, heq]

/-- Two jobs of a cluster have one name exactly if the names of their schedules are cut to the same. A pass that ends
well leaves under every declared name one job, as the last schedule with that name declares it; so every schedule has a
job of its own exactly if no two names of schedules are cut to the same. -/
theorem oneToOne_iff_cut (h : (reconcile settings c).Runs registry es (.ok outcome) registry') (hs : s.Serves es t)
    (hns : c.metadata.ns? = some ns) (hcluster : ',' ∉ c.name.toList) (hnamed : Objects.Named s.cronJobs)
    (hdistinct : Objects.Distinct s.cronJobs)
    (hbelieved : Believable ns c (registry.retain (listedJobs ns c s.cronJobs).contains) s.cronJobs)
    (hnames : ((schedulesOf c).map Schedule.name).Nodup) (hplans : ∀ s ∈ schedulesOf c, (planOf c s).isSome) :
    (∀ name name' : String, jobName c.name name = jobName c.name name' ↔
        truncateName name (scheduleRoom c.name) = truncateName name' (scheduleRoom c.name)) ∧
      (∀ name last, (declared c).get? name = some last → ∃ stored,
        labelledAs ns c name t.cronJobs = [stored] ∧ stored.spec.map (·.schedule) = some last.schedule) ∧
      ((∃ jobOf, OneToOne ns c t.cronJobs jobOf) ↔
        ((schedulesOf c).map fun s ↦ truncateName s.name (scheduleRoom c.name)).Nodup) := by
  rw [cronJobs_of_reconcile_ok h hs hns hbelieved]
  refine ⟨fun _ _ ↦ jobName_eq_iff, fun name last ↦ labelledAs_jobsLeft hns hnamed hdistinct hplans, ?_⟩
  have hcut : ((schedulesOf c).map (jobName c.name ·.name)).Nodup ↔
      ((schedulesOf c).map fun s ↦ truncateName s.name (scheduleRoom c.name)).Nodup := by
    simp only [List.Nodup, List.pairwise_map, ne_eq, jobName_eq_iff]
  rw [← hcut]
  constructor
  · rintro ⟨jobOf, hone⟩
    exact hone.nodup hns hcluster hnamed hdistinct hnames.of_map
  · exact oneToOne_of_nodup hns hnamed hdistinct hplans

/-- A cluster with a long name and two schedules. -/
private def regional (first second : String) : Cluster where
  metadata := { ObjectMeta.empty with name := some "orders-production-eu-central-1", ns? := some "prod" }
  spec := ⟨⟨1, "image", true, ⟨none, "1Gi"⟩⟩, none, none, false, some ⟨"image", .ofList [("disk", .filesystem "claim")],
    [⟨first, "0 2 * * *", 1, "disk"⟩, ⟨second, "0 3 * * 0", 1, "disk"⟩]⟩⟩
  status := none

private theorem planOf_regional (first second : String) (schedule : Schedule)
    (h : schedule ∈ schedulesOf (regional first second)) : (planOf (regional first second) schedule).isSome := by
  change schedule ∈ [_, _] at h
  rw [List.mem_pair] at h
  obtain rfl | rfl := h <;> rfl

/-- A first pass over the schedules of a cluster, at a server that holds nothing. -/
private def firstPass (c : Cluster) : (Except Failure ScheduleOutcome × Registry) × Store :=
  (reconcile .standard c).runIn (Store.surroundings Store.standstill) .empty .empty

private theorem runs_firstPass (c : Cluster) : ∃ es,
    (reconcile .standard c).Runs .empty es (firstPass c).1.1 (firstPass c).1.2 ∧
      Store.empty.Serves es (firstPass c).2 :=
  ⟨_, runs_courseIn _ _ _ _, Store.serves_course _ _ _⟩

/-- Names that differ at their beginnings. -/
theorem oneToOne_iff_cut_regional : ∃ es registry' t jobOf,
    (reconcile .standard (regional "daily" "weekly")).Runs .empty es (.ok ⟨2, 0, 0, 0⟩) registry' ∧
      Store.empty.Serves es t ∧ OneToOne "prod" (regional "daily" "weekly") t.cronJobs jobOf := by
  obtain ⟨es, hrun, hserves⟩ := runs_firstPass (regional "daily" "weekly")
  have hends : (firstPass (regional "daily" "weekly")).1.1 = .ok ⟨2, 0, 0, 0⟩ := by decide +kernel
  rw [hends] at hrun
  obtain ⟨-, -, hiff⟩ := oneToOne_iff_cut hrun hserves rfl (by decide +kernel) (List.forall_mem_nil _) .nil
    believable_empty (by decide +kernel) (planOf_regional _ _)
  obtain ⟨jobOf, hone⟩ := hiff.2 (by decide +kernel)
  exact ⟨es, _, _, jobOf, hrun, hserves, hone⟩

/-- A cluster with two schedules whose names begin alike. -/
private def alike : Cluster := regional "full-copy-to-s3-daily" "full-copy-to-s3-weekly"

/-- Of two schedules whose names begin alike only the second one has its job after a pass that ends well. -/
theorem not_oneToOne_regional :
    (schedulesOf alike).map (·.name) = ["full-copy-to-s3-daily", "full-copy-to-s3-weekly"] ∧
    jobName alike.name "full-copy-to-s3-daily" = jobName alike.name "full-copy-to-s3-weekly" ∧
    ∃ es registry' t,
      (reconcile .standard alike).Runs .empty es (.ok ⟨1, 1, 0, 0⟩) registry' ∧ Store.empty.Serves es t ∧
      (labelled "prod" alike t.cronJobs).map (·.spec.map (·.schedule)) = [some "0 3 * * 0"] ∧
      ¬∃ jobOf, OneToOne "prod" alike t.cronJobs jobOf := by
  have hsame : jobName alike.name "full-copy-to-s3-daily" = jobName alike.name "full-copy-to-s3-weekly" := by
    decide +kernel
  obtain ⟨es, hrun, hserves⟩ := runs_firstPass alike
  have hends : (firstPass alike).1.1 = .ok ⟨1, 1, 0, 0⟩ := by decide +kernel
  rw [hends] at hrun
  refine ⟨rfl, hsame, es, _, _, hrun, hserves, ?_⟩
  rw [cronJobs_of_reconcile_ok hrun hserves rfl believable_empty]
  refine ⟨by decide +kernel, ?_⟩
  rintro ⟨jobOf, hone⟩
  have hnodup := hone.nodup rfl (by decide +kernel) (List.forall_mem_nil _) .nil (by decide +kernel)
  exact (List.nodup_cons.1 hnodup).1 (List.mem_singleton.2 hsame)

end Schedules

end GaleraOperator
