import GaleraOperator.Proofs.Backup.JobSteps

/-!
# The jobs of a cluster after a pass

A pass lists the jobs that carry the label of its cluster, but it looks jobs up by name. So it may meet jobs without the
label, jobs with the label that nobody declares, and declared ones that cannot be made because their storage is missing.
If it is refused nothing, and remembers nothing, then exactly the declared jobs carry the label after it: those with a
storage as they should be, and those without as they were.
-/

namespace GaleraOperator

open Kube Pass

theorem Backup.labels_of_upToDate {existing desired : CronJob} (h : Backup.upToDate existing desired = true) :
    existing.metadata.labels = desired.metadata.labels := by
  unfold Backup.upToDate at h
  split at h
  · simp only [Bool.and_eq_true, decide_eq_true_eq] at h
    exact h.1.1
  · cases h

namespace Schedules

variable {settings : Settings} {account : Option String} {ns name : String} {c : Cluster} {es : List Exchange}
  {s t : Store} {registry registry' : Registry} {jobs jobs' : Objects CronJob} {schedule : Schedule}
  {schedules : List Schedule} {job stored : CronJob} {plan : BackupPlan}

/-- Whether a job carries the label of a cluster. -/
def belongsTo (c : Cluster) (job : CronJob) : Bool := job.metadata.labelsOrNone.get? clusterLabel = some c.name

/-- The jobs of a namespace that carry the label of a cluster. -/
def labelled (ns : String) (c : Cluster) (jobs : Objects CronJob) : List CronJob :=
  jobs.filter fun job ↦ Objects.namespaceOf job = ns && belongsTo c job

/-- Those of them that have a name. -/
def labelledAs (ns : String) (c : Cluster) (name : String) (jobs : Objects CronJob) : List CronJob :=
  (labelled ns c jobs).filter fun job ↦ job.name = name

/-- The jobs that carry the label of a cluster are exactly those that it declares. -/
structure Converged (account : Option String) (ns : String) (c : Cluster) (before after : Objects CronJob) : Prop where
  /-- A schedule with a storage has one job, which needs no update. -/
  built : ∀ schedule ∈ schedulesOf c, ∀ plan, planOf c schedule = some plan →
    ∃ stored, labelledAs ns c (jobName c.name schedule.name) after = [stored] ∧
      Backup.upToDate stored (Backup.cronJob c plan account) = true
  /-- A schedule without storage has the job that it had before, if it had one. -/
  spared : ∀ schedule ∈ schedulesOf c, planOf c schedule = none →
    labelledAs ns c (jobName c.name schedule.name) after = labelledAs ns c (jobName c.name schedule.name) before
  /-- There are no other jobs. -/
  declared : ∀ stored ∈ labelled ns c after, ∃ schedule ∈ schedulesOf c, stored.name = jobName c.name schedule.name
  /-- Where no backup is configured, there is none at all. -/
  unconfigured : c.spec.backup = none → labelled ns c after = []

/-- Whether a schedule has a storage and no job is held under its name. -/
def isMissing (ns : String) (c : Cluster) (jobs : Objects CronJob) (schedule : Schedule) : Bool :=
  (planOf c schedule).isSome && (jobs.find? ns (jobName c.name schedule.name)).isNone

/-- Whether a schedule has a storage and what is held under its name needs an update. -/
def isOutdated (account : Option String) (ns : String) (c : Cluster) (jobs : Objects CronJob) (schedule : Schedule) :
    Bool :=
  (planOf c schedule).any fun plan ↦ (jobs.find? ns (jobName c.name schedule.name)).any fun stored ↦
    !Backup.upToDate stored (Backup.cronJob c plan account)

/-- Whether a job has a name that no schedule of a cluster gives it. -/
def isUndeclared (c : Cluster) (job : CronJob) : Bool := !((schedulesOf c).map (jobName c.name ·.name)).contains job.name

/-- The numbers that a pass tells are those of the jobs that were absent, present but not matching, and labelled but
undeclared. -/
structure Counted (account : Option String) (ns : String) (c : Cluster) (before : Objects CronJob)
    (outcome : ScheduleOutcome) : Prop where
  created : outcome.created = (schedulesOf c).countP (isMissing ns c before)
  updated : outcome.updated = (schedulesOf c).countP (isOutdated account ns c before)
  removed : outcome.removed = (labelled ns c before).countP (isUndeclared c)

theorem mem_labelled :
    job ∈ labelled ns c jobs ↔ job ∈ jobs ∧ Objects.namespaceOf job = ns ∧ belongsTo c job = true := by
  simp [labelled]

/-- What is as a plan says carries the label of the cluster. -/
theorem belongsTo_of_upToDate (h : Backup.upToDate stored (Backup.cronJob c plan account) = true) :
    belongsTo c stored = true := by
  have hlabels := Backup.labels_of_upToDate h
  have hdistinct : clusterLabel ≠ backupTypeLabel ∧ clusterLabel ≠ ancestorLabel ∧ clusterLabel ≠ managedByLabel := by
    decide +kernel
  rw [belongsTo, ObjectMeta.labelsOrNone, hlabels]
  simp [Backup.cronJob, Backup.jobLabels, scheduleLabels, Dict.ofList, hdistinct]

/-- The listing of the jobs of a cluster. -/
theorem select_clusterLabel (hcluster : ',' ∉ c.name.toList) :
    jobs.select ns (Labels.selector (.ofList [(clusterLabel, c.name)])) = labelled ns c jobs := by
  refine List.filter_congr fun job _ ↦ congrArg (_ && ·) (Bool.eq_iff_iff.2 ?_)
  rw [Selector.accepts_selector (Labels.separable_clusterLabel hcluster), belongsTo, decide_eq_true_eq]
  simp [Dict.ofList, HasMeta.metadata]

/-- The labelled job of a name is what is held under the name, if that carries the label. -/
theorem labelledAs_eq (hnamed : Objects.Named jobs) (hdistinct : Objects.Distinct jobs) :
    labelledAs ns c name jobs = ((jobs.find? ns name).filter (belongsTo c)).toList := by
  have hfilter : labelledAs ns c name jobs = (jobs.filter (Objects.isAt ns name)).filter (belongsTo c) := by
    rw [labelledAs, labelled, List.filter_filter, List.filter_filter]
    refine List.filter_congr fun job hjob ↦ ?_
    rw [← Objects.nameOf_cronJob (hnamed job hjob)]
    by_cases hname : Objects.nameOf job = name <;> simp [Objects.isAt, hname, Bool.and_comm]
  rw [hfilter, hdistinct.filter_isAt]
  cases jobs.find? ns name with
  | none => rfl
  | some stored => by_cases hlabel : belongsTo c stored = true <;> simp [Option.filter, hlabel]

/-- A labelled job is what is held under its name. -/
theorem find?_of_mem_labelled (hnamed : Objects.Named jobs) (hdistinct : Objects.Distinct jobs)
    (hmem : job ∈ labelled ns c jobs) : jobs.find? ns job.name = some job := by
  obtain ⟨hjob, hns, -⟩ := mem_labelled.1 hmem
  refine hdistinct.find?_eq_some hjob ?_
  rw [Objects.isAt_iff, Objects.nameOf_cronJob (hnamed job hjob)]
  exact ⟨hns, rfl⟩

/-- The labelled jobs of a cluster have different names. -/
theorem nodup_labelled (hnamed : Objects.Named jobs) (hdistinct : Objects.Distinct jobs) :
    ((labelled ns c jobs).map CronJob.name).Nodup := by
  rw [List.nodup_map_iff_inj_on ?_]
  · intro x hx y hy hname
    have hfound := find?_of_mem_labelled hnamed hdistinct hx
    rw [hname, find?_of_mem_labelled hnamed hdistinct hy] at hfound
    exact (Option.some.inj hfound).symm
  · refine List.Pairwise.sublist List.filter_sublist (hdistinct.imp ?_)
    rintro x y hne rfl
    rw [Objects.isAt_self] at hne
    cases hne

section Steps

variable (hns : c.metadata.ns? = some ns)

include hns

/-- Schedules with different names do not get into each other's way. -/
theorem jobSteps_eq_map (hnodup : (schedules.map (jobName c.name ·.name)).Nodup) :
    jobSteps account ns c schedules jobs =
      schedules.map fun schedule ↦ scheduleStep account c schedule (jobs.find? ns (jobName c.name schedule.name)) := by
  induction schedules generalizing jobs with
  | nil => rfl
  | cons first rest ih =>
    obtain ⟨hfirst, hrest⟩ := List.nodup_cons.1 hnodup
    rw [jobSteps, List.map_cons, ih hrest]
    congr 1
    refine List.map_congr_left fun schedule hschedule ↦ ?_
    rw [find?_step_of_ne hns]
    intro hname
    exact hfirst (List.mem_map.2 ⟨schedule, hschedule, hname.symm⟩)

theorem find?_afterSteps_of_not_mem (hname : name ∉ schedules.map (jobName c.name ·.name)) :
    (afterSteps (jobSteps account ns c schedules jobs) jobs).find? ns name = jobs.find? ns name := by
  induction schedules generalizing jobs with
  | nil => rfl
  | cons first rest ih =>
    rw [List.map_cons, List.mem_cons, not_or] at hname
    rw [jobSteps, afterSteps, List.foldl_cons]
    exact (ih hname.2).trans (find?_step_of_ne hns (Ne.symm hname.1) _ jobs)

/-- Each job is held after all steps as its own step left it. -/
theorem find?_afterSteps_of_mem (hnodup : (schedules.map (jobName c.name ·.name)).Nodup)
    (hschedule : schedule ∈ schedules) :
    (afterSteps (jobSteps account ns c schedules jobs) jobs).find? ns (jobName c.name schedule.name) =
      ((scheduleStep account c schedule (jobs.find? ns (jobName c.name schedule.name))).apply jobs).find? ns
        (jobName c.name schedule.name) := by
  induction schedules generalizing jobs with
  | nil => cases hschedule
  | cons first rest ih =>
    obtain ⟨hfirst, hrest⟩ := List.nodup_cons.1 hnodup
    rw [jobSteps, afterSteps, List.foldl_cons]
    rcases List.mem_cons.1 hschedule with rfl | hschedule
    · exact find?_afterSteps_of_not_mem hns hfirst
    · have hne : jobName c.name first.name ≠ jobName c.name schedule.name :=
        fun hname ↦ hfirst (List.mem_map.2 ⟨schedule, hschedule, hname.symm⟩)
      refine (ih hrest hschedule).trans ?_
      rw [JobStep.find?_apply, find?_step_of_ne hns hne, ← JobStep.find?_apply]

end Steps

theorem named_afterSteps (h : Objects.Named jobs) :
    Objects.Named (afterSteps (jobSteps account ns c schedules jobs) jobs) := by
  induction schedules generalizing jobs with
  | nil => exact h
  | cons first rest ih =>
    rw [jobSteps, afterSteps, List.foldl_cons]
    apply ih
    cases hnew : (scheduleStep account c first (jobs.find? ns (jobName c.name first.name))).new? with
    | none => rwa [JobStep.apply_of_new?_eq_none hnew]
    | some new =>
      rw [JobStep.apply_of_new?_eq_some hnew]
      obtain ⟨plan, version, -, rfl⟩ := new?_scheduleStep hnew
      exact h.put rfl

theorem distinct_afterSteps {steps : List JobStep} (h : Objects.Distinct jobs) :
    Objects.Distinct (afterSteps steps jobs) := by
  induction steps generalizing jobs with
  | nil => exact h
  | cons step rest ih =>
    rw [afterSteps, List.foldl_cons]
    apply ih
    cases hnew : step.new? with
    | none => rwa [JobStep.apply_of_new?_eq_none hnew]
    | some new =>
      rw [JobStep.apply_of_new?_eq_some hnew]
      exact h.put new

theorem named_jobsLeft (h : Objects.Named jobs) : Objects.Named (jobsLeft account ns c jobs) :=
  (named_afterSteps h).sublist List.filter_sublist

theorem distinct_jobsLeft (h : Objects.Distinct jobs) : Objects.Distinct (jobsLeft account ns c jobs) :=
  (distinct_afterSteps h).sublist List.filter_sublist

/-- What is held under a name of which no job is deleted. -/
theorem find?_withoutJobs {names : List String} (hname : name ∉ names) :
    (withoutJobs ns names jobs).find? ns name = jobs.find? ns name := by
  rw [withoutJobs, Objects.find?, List.find?_filter, Objects.find?]
  congr 1
  funext job
  by_cases hjob : Objects.nameOf job = name <;> simp [Objects.isAt, hjob, hname]

theorem not_mem_undeclaredJobs (hschedule : schedule ∈ schedulesOf c) :
    jobName c.name schedule.name ∉ undeclaredJobs ns c jobs := by
  intro hmem
  have hnot := (List.mem_filter.1 hmem).2
  rw [contains_declared_iff.2 (List.mem_map_of_mem hschedule)] at hnot
  cases hnot

/-- The jobs that are left under the names of schedules. -/
theorem find?_jobsLeft (hns : c.metadata.ns? = some ns)
    (hnodup : ((schedulesOf c).map (jobName c.name ·.name)).Nodup) (hschedule : schedule ∈ schedulesOf c) :
    (jobsLeft account ns c jobs).find? ns (jobName c.name schedule.name) =
      ((scheduleStep account c schedule (jobs.find? ns (jobName c.name schedule.name))).apply jobs).find? ns
        (jobName c.name schedule.name) := by
  rw [jobsLeft, find?_withoutJobs (not_mem_undeclaredJobs hschedule)]
  exact find?_afterSteps_of_mem hns hnodup hschedule

/-- What is left carries no label unless it is declared: it was listed otherwise, and deleted. -/
theorem declared_of_mem_jobsLeft (hns : c.metadata.ns? = some ns) (hcluster : ',' ∉ c.name.toList)
    (hnamed : Objects.Named jobs) (hdistinct : Objects.Distinct jobs)
    (hmem : stored ∈ labelled ns c (jobsLeft account ns c jobs)) :
    stored.name ∈ (schedulesOf c).map (jobName c.name ·.name) := by
  by_contra hundeclared
  obtain ⟨hleft, hnamespace, hlabel⟩ := mem_labelled.1 hmem
  obtain ⟨hafter, hkept⟩ := List.mem_filter.1 hleft
  have hnamed' : Objects.Named (afterSteps (jobSteps account ns c (schedulesOf c) jobs) jobs) := named_afterSteps hnamed
  have hfound := find?_of_mem_labelled hnamed' (distinct_afterSteps hdistinct)
    (mem_labelled.2 ⟨hafter, hnamespace, hlabel⟩)
  -- Nothing was done under its name, so it was held before.
  rw [find?_afterSteps_of_not_mem hns hundeclared] at hfound
  have hbefore : stored ∈ labelled ns c jobs :=
    mem_labelled.2 ⟨List.mem_of_find?_eq_some hfound, hnamespace, hlabel⟩
  rw [← select_clusterLabel hcluster] at hbefore
  have hlisted : stored.name ∈ undeclaredJobs ns c jobs := by
    refine List.mem_filter.2 ⟨mem_listedJobs.2 ⟨stored, hbefore, rfl⟩, ?_⟩
    rw [Bool.not_eq_true', Bool.eq_false_iff]
    exact fun hdeclared ↦ hundeclared (contains_declared_iff.1 hdeclared)
  rw [Objects.nameOf_cronJob (hnamed' stored hafter), List.contains_iff_mem.2 hlisted] at hkept
  simp [hnamespace] at hkept

/-- The computed jobs are the declared ones. -/
theorem converged_jobsLeft (hns : c.metadata.ns? = some ns) (hcluster : ',' ∉ c.name.toList)
    (hnamed : Objects.Named jobs) (hdistinct : Objects.Distinct jobs)
    (hnodup : ((schedulesOf c).map (jobName c.name ·.name)).Nodup) :
    Converged account ns c jobs (jobsLeft account ns c jobs) := by
  have hdeclared : ∀ stored ∈ labelled ns c (jobsLeft account ns c jobs),
      ∃ schedule ∈ schedulesOf c, stored.name = jobName c.name schedule.name := by
    intro stored hstored
    obtain ⟨schedule, hschedule, hname⟩ :=
      List.mem_map.1 (declared_of_mem_jobsLeft hns hcluster hnamed hdistinct hstored)
    exact ⟨schedule, hschedule, hname.symm⟩
  constructor
  case built =>
    intro schedule hschedule plan hplan
    obtain ⟨stored, hfound, hsame⟩ := find?_step_self account hns hplan jobs
    refine ⟨stored, ?_, hsame⟩
    rw [labelledAs_eq (named_jobsLeft hnamed) (distinct_jobsLeft hdistinct), find?_jobsLeft hns hnodup hschedule,
      hfound]
    simp [Option.filter, belongsTo_of_upToDate hsame]
  case spared =>
    intro schedule hschedule hplan
    rw [labelledAs_eq (named_jobsLeft hnamed) (distinct_jobsLeft hdistinct), labelledAs_eq hnamed hdistinct,
      find?_jobsLeft hns hnodup hschedule]
    simp only [scheduleStep, hplan]
    rfl
  case declared => exact hdeclared
  case unconfigured =>
    intro hnone
    rw [List.eq_nil_iff_forall_not_mem]
    intro stored hstored
    obtain ⟨schedule, hschedule, -⟩ := hdeclared stored hstored
    simp [schedulesOf, hnone] at hschedule

/-- A job is made exactly if it is missing. -/
theorem change_eq_created_iff (account : Option String) :
    (scheduleStep account c schedule (jobs.find? ns (jobName c.name schedule.name))).change = .created ↔
      isMissing ns c jobs schedule = true := by
  unfold scheduleStep isMissing
  cases planOf c schedule with
  | none => simp [JobStep.change]
  | some plan =>
    cases jobs.find? ns (jobName c.name schedule.name) with
    | none => simp [jobStep, JobStep.change]
    | some stored =>
      by_cases hsame : Backup.upToDate stored (Backup.cronJob c plan account) = true <;>
        simp [jobStep, JobStep.change, hsame]

/-- A job is replaced exactly if it is outdated. -/
theorem change_eq_updated_iff :
    (scheduleStep account c schedule (jobs.find? ns (jobName c.name schedule.name))).change = .updated ↔
      isOutdated account ns c jobs schedule = true := by
  unfold scheduleStep isOutdated
  cases planOf c schedule with
  | none => simp [JobStep.change]
  | some plan =>
    cases jobs.find? ns (jobName c.name schedule.name) with
    | none => simp [jobStep, JobStep.change]
    | some stored =>
      by_cases hsame : Backup.upToDate stored (Backup.cronJob c plan account) = true <;>
        simp [jobStep, JobStep.change, hsame]

/-- The listed jobs that nobody declares are as many as carry the label. -/
theorem length_undeclaredJobs (hcluster : ',' ∉ c.name.toList) (hnamed : Objects.Named jobs)
    (hdistinct : Objects.Distinct jobs) :
    (undeclaredJobs ns c jobs).length = (labelled ns c jobs).countP (isUndeclared c) := by
  have hperm : (listedJobs ns c jobs).Perm ((labelled ns c jobs).map CronJob.name) := by
    refine (List.perm_ext_iff_of_nodup (Dict.nodup_keys _) (nodup_labelled hnamed hdistinct)).2 fun name ↦ ?_
    change name ∈ listedJobs ns c jobs ↔ _
    rw [mem_listedJobs, Lists, select_clusterLabel hcluster, List.mem_map]
  have hundeclared : (fun name ↦ !(declared c).contains name) ∘ CronJob.name = isUndeclared c := by
    funext job
    change (!(declared c).contains job.name) = _
    rw [isUndeclared, Bool.eq_iff_iff, Bool.not_eq_true', Bool.not_eq_true', Bool.eq_false_iff, Bool.eq_false_iff,
      ne_eq, ne_eq, contains_declared_iff, List.contains_iff_mem]
  rw [undeclaredJobs, (hperm.filter _).length_eq, ← List.countP_eq_length_filter, List.countP_map, hundeclared]

/-- A pass that is refused nothing and remembers nothing leaves exactly the declared jobs, and tells how many were
missing, outdated and undeclared. -/
theorem reconcile_converges {r : Except Failure ScheduleOutcome}
    (h : (reconcile settings c).Runs .empty es r registry') (hs : s.Serves es t) (hgranted : Store.Granted es)
    (hns : c.metadata.ns? = some ns) (hcluster : ',' ∉ c.name.toList)
    (hnodup : ((schedulesOf c).map (jobName c.name ·.name)).Nodup) (hnamed : Objects.Named s.cronJobs)
    (hdistinct : Objects.Distinct s.cronJobs) :
    ∃ outcome, r = .ok outcome ∧ Converged settings.serviceAccount ns c s.cronJobs t.cronJobs ∧
      Counted settings.serviceAccount ns c s.cronJobs outcome := by
  have hbelieved : Believable ns c (Dict.retain .empty (listedJobs ns c s.cronJobs).contains) s.cronJobs :=
    believable_empty
  obtain ⟨hjobs, outcome, rfl, hcreated, hupdated, hremoved⟩ := runs_reconcile_steps h hs hgranted hns hbelieved
  refine ⟨outcome, rfl, ?_, ?_⟩
  · rw [hjobs]
    exact converged_jobsLeft hns hcluster hnamed hdistinct hnodup
  · have hchanges : (jobReport settings.serviceAccount ns c s.cronJobs).1 = (schedulesOf c).map fun schedule ↦
        (scheduleStep settings.serviceAccount c schedule
          (s.cronJobs.find? ns (jobName c.name schedule.name))).change := by
      rw [jobReport, jobSteps_eq_map hns hnodup, List.map_map]
      rfl
    rw [hchanges, List.count_eq_countP, List.countP_map] at hcreated hupdated
    constructor
    · rw [hcreated]
      refine List.countP_congr fun schedule _ ↦ ?_
      rw [← change_eq_created_iff settings.serviceAccount, Function.comp_apply, beq_iff_eq]
    · rw [hupdated]
      refine List.countP_congr fun schedule _ ↦ ?_
      rw [← change_eq_updated_iff, Function.comp_apply, beq_iff_eq]
    · rw [hremoved]
      exact length_undeclaredJobs hcluster hnamed hdistinct

/-- A cluster with three backups, of which one has lost its storage. -/
private def archived : Cluster where
  metadata := { ObjectMeta.empty with name := some "db", ns? := some "prod" }
  spec := ⟨⟨1, "image", true, ⟨none, "1Gi"⟩⟩, none, none, false, some ⟨"image", .ofList [("disk", .filesystem "claim")],
    [⟨"noon", "0 12 * * *", 1, "disk"⟩, ⟨"night", "0 0 * * *", 1, "disk"⟩, ⟨"yearly", "0 0 1 1 *", 1, "tape"⟩]⟩⟩
  status := none

/-- The job of a schedule as it was made at some time. -/
private def archivedJob (name time : String) : CronJob :=
  Backup.cronJob archived ⟨⟨name, time, 1, "disk"⟩, .filesystem "claim", "image"⟩ none

/-- A server that holds an outdated job, one that nobody declares any more, and one that cannot be made again. -/
private def archivedStore : Store :=
  { Store.empty with
    cronJobs := [archivedJob "night" "30 0 * * *", archivedJob "hourly" "0 * * * *", archivedJob "yearly" "0 0 1 1 *"] }

private def archivedSurroundings : Interaction.Surroundings Store :=
  Store.surroundings Store.standstill

/-- One job is made, one replaced and one deleted. -/
theorem reconcile_converges_archived : ∃ es registry' t,
    (reconcile .standard archived).Runs .empty es (.ok ⟨1, 1, 1, 0⟩) registry' ∧ archivedStore.Serves es t ∧
      Converged none "prod" archived archivedStore.cronJobs t.cronJobs ∧
      Counted none "prod" archived archivedStore.cronJobs ⟨1, 1, 1, 0⟩ := by
  have hends : ((reconcile .standard archived).runIn archivedSurroundings .empty archivedStore).1.1 =
      .ok ⟨1, 1, 1, 0⟩ := by
    decide +kernel
  have hrun := runs_courseIn (reconcile .standard archived) archivedSurroundings .empty archivedStore
  obtain ⟨hserves, hgranted⟩ := Store.granted_of_gives
    (Interaction.gives_course archivedSurroundings ((reconcile .standard archived).run.run .empty) archivedStore)
  rw [hends] at hrun
  have hnamed : Objects.Named archivedStore.cronJobs := by
    simp only [Objects.Named, archivedStore, List.forall_mem_cons]
    exact ⟨rfl, rfl, rfl, List.forall_mem_nil _⟩
  have hdistinct : Objects.Distinct archivedStore.cronJobs := by
    unfold Objects.Distinct
    decide +kernel
  obtain ⟨outcome, hr, hconverged, hcounted⟩ :=
    reconcile_converges hrun hserves hgranted rfl (by decide +kernel) (by decide +kernel) hnamed hdistinct
  cases hr
  exact ⟨_, _, _, hrun, hserves, hconverged, hcounted⟩

end Schedules

end GaleraOperator
