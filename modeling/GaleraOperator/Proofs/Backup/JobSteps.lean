import GaleraOperator.Proofs.Backup.Settled

/-!
# Looking after jobs, computed

What a pass does about the job of a schedule depends on nothing but what is held under the name of the job, as long as
what the registry remembers is true. So all that a pass does about jobs can be computed from the jobs that it finds:
the changes, what is written for them, the jobs that are deleted after that, and the jobs that are held then. The
registry does not occur in it.
-/

namespace GaleraOperator

open Kube Pass

namespace Backup

/-- Whether a job needs an update does not depend on the account that its runs use, nor on anything that does not tell
clusters apart. -/
theorem upToDate_cronJob_congr {c c' : Cluster} (hns : c'.metadata.ns? = c.metadata.ns?) (hname : c'.name = c.name)
    (plan : BackupPlan) (account account' : Option String) (stored : CronJob) :
    upToDate stored (cronJob c' plan account') = upToDate stored (cronJob c plan account) := by
  have hlabels : (cronJob c' plan account').metadata.labels = (cronJob c plan account).metadata.labels := by
    simp only [cronJob, hname]
  have hcontainer : (cronJob c' plan account').container? = (cronJob c plan account).container? := by
    simp only [cronJob, CronJob.container?, Option.bind_eq_bind, Option.bind_some, List.head?_cons, hns, hname]
  unfold upToDate
  rw [hlabels, hcontainer]
  cases stored.spec <;> cases stored.container? <;> rfl

end Backup

namespace Schedules

variable {settings : Settings} {account : Option String} {ns job : String} {c : Cluster} {es : List Exchange}
  {s t : Store} {registry registry' : Registry} {jobs jobs' : Objects CronJob} {schedule : Schedule}
  {schedules : List Schedule} {desired : CronJob} {found? : Option CronJob}

/-- What is done about a job. -/
inductive JobStep where
  | keep
  | create (job : CronJob)
  | replace (job : CronJob)

namespace JobStep

/-- What the pass says of a step. -/
def change : JobStep → JobChange
  | keep => .kept
  | create _ => .created
  | replace _ => .updated

/-- What is written in a step. -/
def writes (ns : String) : JobStep → List Call
  | keep => []
  | create job => [.createCronJob ns job]
  | replace job => [.replaceCronJob ns job]

/-- The jobs after a step. -/
def apply (step : JobStep) (jobs : Objects CronJob) : Objects CronJob :=
  match step with
  | keep => jobs
  | create job | replace job => jobs.put job

/-- The job that is put in its place in a step, if any is. -/
def new? : JobStep → Option CronJob
  | keep => none
  | create job | replace job => some job

variable {step : JobStep}

theorem apply_of_new?_eq_none (h : step.new? = none) (jobs : Objects CronJob) : step.apply jobs = jobs := by
  cases step with
  | keep => rfl
  | create | replace => cases h

theorem apply_of_new?_eq_some {new : CronJob} (h : step.new? = some new) (jobs : Objects CronJob) :
    step.apply jobs = jobs.put new := by
  cases step with
  | keep => cases h
  | create | replace =>
    cases h
    rfl

/-- What is held under a name after a step. -/
theorem find?_apply (ns name : String) (jobs : Objects CronJob) :
    (step.apply jobs).find? ns name =
      ((step.new?.filter (Objects.isAt ns name)) <|> jobs.find? ns name) := by
  cases step with
  | keep => rfl
  | create new | replace new =>
    change (jobs.put new).find? ns name = _
    rw [Objects.find?_put]
    by_cases hat : Objects.isAt ns name new = true <;> simp [new?, Option.filter, hat]

end JobStep

/-- What is done about a job for which something is desired, given what is held under its name. -/
def jobStep (desired : CronJob) : Option CronJob → JobStep
  | none => .create desired
  | some stored =>
    if Backup.upToDate stored desired then .keep
    else .replace { desired with metadata.resourceVersion := stored.metadata.resourceVersion }

/-- What the job of a schedule is made from, if the schedule has a storage. -/
def planOf (c : Cluster) (schedule : Schedule) : Option BackupPlan := c.spec.backup.bind (plan? · schedule)

/-- What is done about the job of a schedule, given what is held under its name. -/
def scheduleStep (account : Option String) (c : Cluster) (schedule : Schedule) (found? : Option CronJob) : JobStep :=
  match planOf c schedule with
  | none => .keep
  | some plan => jobStep (Backup.cronJob c plan account) found?

/-- What is done about the jobs of schedules, one after the other. -/
def jobSteps (account : Option String) (ns : String) (c : Cluster) : List Schedule → Objects CronJob → List JobStep
  | [], _ => []
  | schedule :: rest, jobs =>
    let step := scheduleStep account c schedule (jobs.find? ns (jobName c.name schedule.name))
    step :: jobSteps account ns c rest (step.apply jobs)

/-- The jobs after steps. -/
def afterSteps (steps : List JobStep) (jobs : Objects CronJob) : Objects CronJob :=
  steps.foldl (fun jobs step ↦ step.apply jobs) jobs

/-- The jobs of a cluster that are listed, but belong to no declared schedule. -/
def undeclaredJobs (ns : String) (c : Cluster) (jobs : Objects CronJob) : List String :=
  (listedJobs ns c jobs).filter fun job ↦ !(declared c).contains job

/-- The jobs without those of a namespace that have one of some names. -/
def withoutJobs (ns : String) (names : List String) (jobs : Objects CronJob) : Objects CronJob :=
  jobs.filter fun job ↦ !(Objects.namespaceOf job = ns && names.contains (Objects.nameOf job))

/-- The writes by which a pass looks after the jobs that it finds. -/
def jobWrites (account : Option String) (ns : String) (c : Cluster) (jobs : Objects CronJob) : List Call :=
  (jobSteps account ns c (schedulesOf c) jobs).flatMap (JobStep.writes ns) ++
    (undeclaredJobs ns c jobs).map (.deleteCronJob ns)

/-- The jobs that a pass leaves of those that it finds. -/
def jobsLeft (account : Option String) (ns : String) (c : Cluster) (jobs : Objects CronJob) : Objects CronJob :=
  withoutJobs ns (undeclaredJobs ns c jobs) (afterSteps (jobSteps account ns c (schedulesOf c) jobs) jobs)

/-- What a pass says of the jobs that it finds. -/
def jobReport (account : Option String) (ns : String) (c : Cluster) (jobs : Objects CronJob) :
    List JobChange × List String :=
  ((jobSteps account ns c (schedulesOf c) jobs).map JobStep.change, undeclaredJobs ns c jobs)

theorem planOf_eq {backup : BackupSpec} (h : c.spec.backup = some backup) :
    planOf c schedule = plan? backup schedule := by
  rw [planOf, h]
  rfl

theorem schedule_of_planOf {plan : BackupPlan} (h : planOf c schedule = some plan) : plan.schedule = schedule := by
  obtain ⟨backup, -, hplan⟩ := Option.bind_eq_some_iff.1 h
  exact schedule_of_plan? hplan

theorem schedulesOf_eq {backup : BackupSpec} (h : c.spec.backup = some backup) : schedulesOf c = backup.schedules := by
  rw [schedulesOf, h]
  rfl

/-- Bringing a job in line does what is computed for it. -/
theorem runs_applyJob_step {σ : Type} {m m' : σ} {r : Except Failure JobChange}
    (h : (applyJob ns desired).Runs m es r m') (hs : s.Serves es t) (hgranted : Store.Granted es)
    {step : JobStep} (hstep : step = jobStep desired (s.cronJobs.find? ns desired.name)) :
    m' = m ∧ r = .ok step.change ∧ writes es = step.writes ns ∧ t.cronJobs = step.apply s.cronJobs := by
  obtain ⟨rest, rfl, hrest, hserves, hgranted⟩ := hgranted.runs_call_bind h hs
  cases hfound : s.cronJobs.find? ns desired.name with
  | none =>
    simp only [Store.perform, hfound] at hrest hserves
    obtain ⟨last, rfl, hend, hput, -⟩ := hgranted.runs_call_bind hrest hserves
    obtain ⟨rfl, rfl, rfl⟩ := runs_pure.1 hend
    rw [hstep, hfound]
    exact ⟨rfl, rfl, rfl, congrArg Store.cronJobs hput⟩
  | some stored =>
    simp only [Store.perform, hfound] at hrest hserves
    by_cases hsame : Backup.upToDate stored desired = true
    · simp only [hsame, if_true] at hrest
      obtain ⟨rfl, rfl, rfl⟩ := runs_pure.1 hrest
      rw [hstep, hfound, jobStep, if_pos hsame]
      exact ⟨rfl, rfl, rfl, congrArg Store.cronJobs hserves⟩
    · simp only [hsame, Bool.false_eq_true, if_false] at hrest
      obtain ⟨last, rfl, hend, hput, -⟩ := hgranted.runs_call_bind hrest hserves
      obtain ⟨rfl, rfl, rfl⟩ := runs_pure.1 hend
      rw [hstep, hfound, jobStep, if_neg hsame]
      exact ⟨rfl, rfl, rfl, congrArg Store.cronJobs hput⟩

/-- What the registry remembers is true: under the name of every job is held what needs no update to be what the
remembered plan says. -/
def Believable (ns : String) (c : Cluster) (registry : Registry) (jobs : Objects CronJob) : Prop :=
  ∀ job plan, registry.get? job = some plan → ∃ stored, jobs.find? ns job = some stored ∧
    Backup.upToDate stored (Backup.cronJob c plan none) = true

theorem believable_empty : Believable ns c .empty jobs := by
  rintro job plan ⟨⟩

/-- What a step puts in the place of a schedule's job was made from the plan of the schedule. -/
theorem new?_scheduleStep {new : CronJob} (hnew : (scheduleStep account c schedule found?).new? = some new) :
    ∃ plan version, planOf c schedule = some plan ∧
      new = { Backup.cronJob c plan account with metadata.resourceVersion := version } := by
  unfold scheduleStep at hnew
  cases hplan : planOf c schedule with
  | none =>
    rw [hplan] at hnew
    cases hnew
  | some plan =>
    rw [hplan] at hnew
    cases found? with
    | none =>
      cases hnew
      exact ⟨plan, none, rfl, rfl⟩
    | some stored =>
      by_cases hsame : Backup.upToDate stored (Backup.cronJob c plan account) = true
      · simp only [jobStep, hsame, if_true] at hnew
        cases hnew
      · simp only [jobStep, hsame, Bool.false_eq_true, if_false] at hnew
        cases hnew
        exact ⟨plan, stored.metadata.resourceVersion, rfl, rfl⟩

/-- What a step puts in its place has the name of the schedule's job. -/
theorem isAt_of_new? {name : String} {new : CronJob} (hns : c.metadata.ns? = some ns)
    (hnew : (scheduleStep account c schedule found?).new? = some new) :
    Objects.isAt ns name new = true ↔ jobName c.name schedule.name = name := by
  obtain ⟨plan, version, hplan, rfl⟩ := new?_scheduleStep hnew
  rw [← schedule_of_planOf hplan, Objects.isAt_iff]
  change c.metadata.ns?.getD "" = ns ∧ jobName c.name plan.schedule.name = name ↔ _
  rw [hns]
  exact and_iff_right rfl

/-- A step changes nothing under other names than that of the schedule's job. -/
theorem find?_step_of_ne {name : String} (hns : c.metadata.ns? = some ns) (hne : jobName c.name schedule.name ≠ name)
    (found? : Option CronJob) (jobs : Objects CronJob) :
    ((scheduleStep account c schedule found?).apply jobs).find? ns name = jobs.find? ns name := by
  cases hnew : (scheduleStep account c schedule found?).new? with
  | none => rw [JobStep.apply_of_new?_eq_none hnew]
  | some new =>
    have hat : Objects.isAt ns name new = false := Bool.eq_false_iff.2 fun hat ↦ hne ((isAt_of_new? hns hnew).1 hat)
    rw [JobStep.apply_of_new?_eq_some hnew, Objects.find?_put, hat]
    rfl

/-- After its step the job of a schedule with storage is held as it should be. -/
theorem find?_step_self {plan : BackupPlan} (account : Option String) (hns : c.metadata.ns? = some ns)
    (hplan : planOf c schedule = some plan) (jobs : Objects CronJob) :
    ∃ stored, ((scheduleStep account c schedule (jobs.find? ns (jobName c.name schedule.name))).apply jobs).find? ns
        (jobName c.name schedule.name) = some stored ∧
      Backup.upToDate stored (Backup.cronJob c plan account) = true := by
  have hschedule := schedule_of_planOf hplan
  unfold scheduleStep
  rw [hplan]
  cases hfound : jobs.find? ns (jobName c.name schedule.name) with
  | none => exact ⟨_, find?_put_cronJob account none hns hschedule _, Backup.upToDate_cronJob c plan account none⟩
  | some stored =>
    by_cases hsame : Backup.upToDate stored (Backup.cronJob c plan account) = true
    · refine ⟨stored, ?_, hsame⟩
      simp only [jobStep, hsame, if_true]
      exact hfound
    · simp only [jobStep, hsame, Bool.false_eq_true, if_false]
      exact ⟨_, find?_put_cronJob account _ hns hschedule _, Backup.upToDate_cronJob c plan account _⟩

/-- A schedule whose plan the registry remembers is kept. -/
theorem scheduleStep_of_believed {plan : BackupPlan} (hbelieved : Believable ns c registry jobs)
    (hplan : planOf c schedule = some plan) (hknown : registry.get? (jobName c.name schedule.name) = some plan) :
    scheduleStep account c schedule (jobs.find? ns (jobName c.name schedule.name)) = .keep := by
  obtain ⟨stored, hfound, hsame⟩ := hbelieved _ plan hknown
  rw [← Backup.upToDate_cronJob_congr rfl rfl plan none account] at hsame
  simp only [scheduleStep, hplan, hfound, jobStep, hsame, if_true]

/-- After its step the plan of a schedule may be remembered. -/
theorem Believable.insert {plan : BackupPlan} (hbelieved : Believable ns c registry jobs)
    (hns : c.metadata.ns? = some ns) (hplan : planOf c schedule = some plan) :
    Believable ns c (registry.insert (jobName c.name schedule.name) plan)
      ((scheduleStep account c schedule (jobs.find? ns (jobName c.name schedule.name))).apply jobs) := by
  intro job plan' hknown
  rw [Dict.get?_insert] at hknown
  by_cases hjob : job = jobName c.name schedule.name
  · rw [if_pos hjob] at hknown
    cases hknown
    rw [hjob]
    obtain ⟨stored, hfound, hsame⟩ := find?_step_self account hns hplan jobs
    rw [Backup.upToDate_cronJob_congr rfl rfl plan none account] at hsame
    exact ⟨stored, hfound, hsame⟩
  · rw [if_neg hjob] at hknown
    rw [find?_step_of_ne hns (Ne.symm hjob)]
    exact hbelieved job plan' hknown

/-- Applying a schedule does what is computed for it, whatever the registry knows. -/
theorem runs_applySchedule_step {backup : BackupSpec} {r : Except Failure JobChange}
    (h : (applySchedule settings ns c backup schedule).Runs registry es r registry') (hs : s.Serves es t)
    (hgranted : Store.Granted es) (hns : c.metadata.ns? = some ns) (hbackup : c.spec.backup = some backup)
    (hbelieved : Believable ns c registry s.cronJobs) {step : JobStep}
    (hstep : step = scheduleStep settings.serviceAccount c schedule
      (s.cronJobs.find? ns (jobName c.name schedule.name))) :
    r = .ok step.change ∧ writes es = step.writes ns ∧ t.cronJobs = step.apply s.cronJobs ∧
      Believable ns c registry' t.cronJobs := by
  unfold applySchedule at h
  rw [← planOf_eq hbackup] at h
  cases hplan : planOf c schedule with
  | none =>
    simp only [hplan] at h
    obtain ⟨rfl, rfl, rfl⟩ := runs_pure.1 h
    obtain rfl : t = s := hs
    obtain rfl : step = .keep := by simp only [hstep, scheduleStep, hplan]
    exact ⟨rfl, rfl, rfl, hbelieved⟩
  | some plan =>
    simp only [hplan] at h
    rw [runs_get_bind] at h
    by_cases hknown : registry.get? (jobName c.name schedule.name) = some plan
    · simp only [hknown, if_true] at h
      obtain ⟨rfl, rfl, rfl⟩ := runs_pure.1 h
      obtain rfl : t = s := hs
      rw [scheduleStep_of_believed hbelieved hplan hknown] at hstep
      rw [hstep]
      exact ⟨rfl, rfl, rfl, hbelieved⟩
    · simp only [hknown, if_false] at h
      have hstep' : step = jobStep (Backup.cronJob c plan settings.serviceAccount)
          (s.cronJobs.find? ns (Backup.cronJob c plan settings.serviceAccount).name) := by
        rw [hstep, scheduleStep, hplan, name_cronJob (schedule_of_planOf hplan)]
      rcases runs_bind.1 h with ⟨es₁, es₂, change, _, rfl, happly, hend⟩ | ⟨f, rfl, happly⟩
      · obtain ⟨u, hs₁, hs₂⟩ := Store.serves_append.1 hs
        obtain ⟨hgranted₁, -⟩ := Store.granted_append.1 hgranted
        obtain ⟨rfl, hchange, hwrites, hjobs⟩ := runs_applyJob_step happly hs₁ hgranted₁ hstep'
        rw [remember, runs_modify_bind] at hend
        obtain ⟨rfl, rfl, rfl⟩ := runs_pure.1 hend
        obtain rfl : t = u := hs₂
        rw [List.append_nil]
        refine ⟨hchange, hwrites, hjobs, ?_⟩
        rw [hjobs, hstep]
        exact hbelieved.insert hns hplan
      · obtain ⟨-, hr, -⟩ := runs_applyJob_step happly hs hgranted hstep'
        cases hr

/-- Applying schedules one after the other does what is computed for them. -/
theorem runs_applySchedules_steps {backup : BackupSpec} {r : Except Failure (List JobChange)}
    (h : (schedules.mapM (applySchedule settings ns c backup)).Runs registry es r registry') (hs : s.Serves es t)
    (hgranted : Store.Granted es) (hns : c.metadata.ns? = some ns) (hbackup : c.spec.backup = some backup)
    (hbelieved : Believable ns c registry s.cronJobs) {steps : List JobStep}
    (hsteps : steps = jobSteps settings.serviceAccount ns c schedules s.cronJobs) :
    r = .ok (steps.map JobStep.change) ∧ writes es = steps.flatMap (JobStep.writes ns) ∧
      t.cronJobs = afterSteps steps s.cronJobs := by
  induction schedules generalizing registry s es r steps with
  | nil =>
    obtain ⟨rfl, rfl, rfl⟩ := runs_mapM_nil.1 h
    obtain rfl : t = s := hs
    rw [hsteps]
    exact ⟨rfl, rfl, rfl⟩
  | cons first rest ih =>
    rw [jobSteps] at hsteps
    rcases runs_mapM_cons.1 h with ⟨es₁, es₂, change, registry₁, r₂, rfl, hfirst, hrest, rfl⟩ | ⟨f, rfl, hfirst⟩
    · obtain ⟨u, hs₁, hs₂⟩ := Store.serves_append.1 hs
      obtain ⟨hgranted₁, hgranted₂⟩ := Store.granted_append.1 hgranted
      obtain ⟨hchange, hwrites, hjobs, hbelieved'⟩ :=
        runs_applySchedule_step hfirst hs₁ hgranted₁ hns hbackup hbelieved rfl
      obtain rfl := Except.ok.inj hchange
      obtain ⟨rfl, hwrites', hjobs'⟩ := ih hrest hs₂ hgranted₂ hbelieved' rfl
      rw [hsteps, writes_append, hwrites, hwrites', hjobs', hjobs]
      exact ⟨rfl, rfl, rfl⟩
    · obtain ⟨hr, -⟩ := runs_applySchedule_step hfirst hs hgranted hns hbackup hbelieved rfl
      cases hr

theorem runs_applyAll_steps {r : Except Failure (List JobChange)}
    (h : (applyAll settings ns c).Runs registry es r registry') (hs : s.Serves es t) (hgranted : Store.Granted es)
    (hns : c.metadata.ns? = some ns) (hbelieved : Believable ns c registry s.cronJobs) {steps : List JobStep}
    (hsteps : steps = jobSteps settings.serviceAccount ns c (schedulesOf c) s.cronJobs) :
    r = .ok (steps.map JobStep.change) ∧ writes es = steps.flatMap (JobStep.writes ns) ∧
      t.cronJobs = afterSteps steps s.cronJobs := by
  unfold applyAll at h
  cases hbackup : c.spec.backup with
  | none =>
    simp only [hbackup] at h
    obtain ⟨rfl, rfl, rfl⟩ := runs_pure.1 h
    obtain rfl : t = s := hs
    rw [hsteps, schedulesOf, hbackup]
    exact ⟨rfl, rfl, rfl⟩
  | some backup =>
    simp only [hbackup] at h
    rw [schedulesOf_eq hbackup] at hsteps
    exact runs_applySchedules_steps h hs hgranted hns hbackup hbelieved hsteps

theorem runs_deleteJobs_writes {σ : Type} {m m' : σ} {names : List String} {r : Except Failure Unit}
    (h : (deleteJobs ns names).Runs m es r m') (hs : s.Serves es t) (hgranted : Store.Granted es) :
    writes es = names.map (.deleteCronJob ns) := by
  induction names generalizing s es with
  | nil =>
    obtain ⟨rfl, -, -⟩ := runs_pure.1 h
    rfl
  | cons name names ih =>
    obtain ⟨rest, rfl, hrest, hserves, hgranted⟩ := hgranted.runs_call_bind h hs
    rw [List.map_cons, ← ih hrest hserves hgranted]
    rfl

/-- A pass that is refused nothing does about jobs what is computed from those that it finds, if the registry remembers
nothing false of those that are listed. -/
theorem runs_alignJobs_steps {r : Except Failure (List JobChange × List String)}
    (h : (alignJobs settings ns c).Runs registry es r registry') (hs : s.Serves es t) (hgranted : Store.Granted es)
    (hns : c.metadata.ns? = some ns)
    (hbelieved : Believable ns c (registry.retain (listedJobs ns c s.cronJobs).contains) s.cronJobs) :
    r = .ok (jobReport settings.serviceAccount ns c s.cronJobs) ∧
      writes es = jobWrites settings.serviceAccount ns c s.cronJobs ∧
      t = { s with cronJobs := jobsLeft settings.serviceAccount ns c s.cronJobs } := by
  -- Calls about jobs change nothing else.
  have hframe : { t with cronJobs := [] } = { s with cronJobs := [] } :=
    hs.frame (fun u ↦ { u with cronJobs := [] }) fun call hcall u ↦ by
      rw [perform_jobOperation (asks_alignJobs_of_operation (fun _ h ↦ h) _ _ _ _ h call hcall)]
  rcases runs_bind.1 h with ⟨es₁, es₂, listed, registry₁, rfl, hlist, hrest⟩ | ⟨f, rfl, hlist⟩
  · obtain ⟨u, hs₁, hs₂⟩ := Store.serves_append.1 hs
    obtain ⟨hgranted₁, hgranted₂⟩ := Store.granted_append.1 hgranted
    obtain ⟨rfl, rfl, hreads, hlisted⟩ := runs_listJobs hlist hs₁ hgranted₁
    rw [← Except.ok.inj hlisted] at hbelieved
    rw [remember, runs_modify_bind] at hrest
    rcases runs_bind.1 hrest with ⟨es₃, es₄, changes, registry₂, rfl, happly, hafter⟩ | ⟨f, rfl, happly⟩
    · obtain ⟨v, hs₃, hs₄⟩ := Store.serves_append.1 hs₂
      obtain ⟨hgranted₃, hgranted₄⟩ := Store.granted_append.1 hgranted₂
      obtain ⟨hchanges, hwrites, hjobs⟩ := runs_applyAll_steps happly hs₃ hgranted₃ hns hbelieved rfl
      rcases runs_bind.1 hafter with ⟨es₅, es₆, _, registry₃, rfl, hdelete, hend⟩ | ⟨f, rfl, hdelete⟩
      · obtain ⟨w, hs₅, hs₆⟩ := Store.serves_append.1 hs₄
        obtain ⟨hgranted₅, -⟩ := Store.granted_append.1 hgranted₄
        have hwrites' := runs_deleteJobs_writes hdelete hs₅ hgranted₅
        obtain ⟨rfl, -, -, hleft⟩ := runs_deleteJobs hdelete hs₅ hgranted₅
        rw [remember, runs_modify_bind] at hend
        obtain ⟨rfl, rfl, rfl⟩ := runs_pure.1 hend
        obtain rfl : t = w := hs₆
        rw [Except.ok.inj hchanges, Except.ok.inj hlisted]
        rw [Except.ok.inj hlisted] at hwrites' hleft
        refine ⟨rfl, ?_, ?_⟩
        · rw [writes_append, writes_append, writes_append, reads_iff_writes_eq_nil.1 hreads, hwrites, hwrites']
          simp only [List.nil_append, writes, calls_nil, List.filter_nil, List.append_nil]
          rfl
        · rw [hjobs] at hleft
          change t.cronJobs = jobsLeft settings.serviceAccount ns c u.cronJobs at hleft
          rw [← hleft]
          simpa using congrArg (fun v : Store ↦ { v with cronJobs := t.cronJobs }) hframe
      · obtain ⟨-, hr, -⟩ := runs_deleteJobs hdelete hs₄ hgranted₄
        cases hr
    · obtain ⟨hr, -⟩ := runs_applyAll_steps happly hs₂ hgranted₂ hns hbelieved rfl
      cases hr
  · obtain ⟨-, -, -, hr⟩ := runs_listJobs hlist hs hgranted
    cases hr

/-- Looking after records never fails, and says what was done about jobs before. -/
theorem runs_pruneAll_report {changes : List JobChange} {undeclared : List String} {r : Except Failure ScheduleOutcome}
    (h : (pruneAll ns c changes undeclared).Runs registry es r registry') :
    ∃ pruned, r = .ok ⟨changes.count .created, changes.count .updated, undeclared.length, pruned⟩ := by
  have hentries (entry : String × Schedule) (m : Registry) (es : List Exchange) (r : Except Failure Nat)
      (m' : Registry) (h : (pruneDeclared ns c.name entry).Runs m es r m') : ∃ count, r = .ok count := by
    obtain ⟨-, -, hr⟩ := runs_pruneDeclared h
    exact ⟨_, hr⟩
  rcases runs_bind.1 h with ⟨es₁, es₂, counts, registry₁, rfl, hprune, hmeasure⟩ | ⟨f, rfl, hprune⟩
  · by_cases hpruned : 0 < total counts
    · simp only [hpruned, if_true] at hmeasure
      obtain ⟨reply, rest, rfl, hend⟩ := runs_ask_bind.1 hmeasure
      obtain ⟨rfl, rfl, rfl⟩ := runs_pure.1 hend
      exact ⟨_, rfl⟩
    · simp only [hpruned, if_false] at hmeasure
      obtain ⟨rfl, rfl, rfl⟩ := runs_pure.1 hmeasure
      exact ⟨_, rfl⟩
  · obtain ⟨_, hr⟩ := ok_of_mapM hentries hprune
    cases hr

/-- Looking after records does nothing about jobs. -/
theorem cronJobs_of_pruneAll {changes : List JobChange} {undeclared : List String}
    {r : Except Failure ScheduleOutcome} (h : (pruneAll ns c changes undeclared).Runs registry es r registry')
    (hs : s.Serves es t) : t.cronJobs = s.cronJobs :=
  hs.frame Store.cronJobs fun call hcall u ↦ by
    rw [perform_recordOperation (asks_pruneAll (fun _ h ↦ h) _ _ _ _ _ _ h call hcall)]

/-- A pass that is refused nothing ends well, leaves the jobs that are computed from those that it finds, and says what
it has done about them. -/
theorem runs_reconcile_steps {r : Except Failure ScheduleOutcome}
    (h : (reconcile settings c).Runs registry es r registry') (hs : s.Serves es t) (hgranted : Store.Granted es)
    (hns : c.metadata.ns? = some ns)
    (hbelieved : Believable ns c (registry.retain (listedJobs ns c s.cronJobs).contains) s.cronJobs) :
    t.cronJobs = jobsLeft settings.serviceAccount ns c s.cronJobs ∧ ∃ outcome, r = .ok outcome ∧
      outcome.created = (jobReport settings.serviceAccount ns c s.cronJobs).1.count .created ∧
      outcome.updated = (jobReport settings.serviceAccount ns c s.cronJobs).1.count .updated ∧
      outcome.removed = (jobReport settings.serviceAccount ns c s.cronJobs).2.length := by
  rw [reconcile_eq hns] at h
  rcases runs_bind.1 h with ⟨es₁, es₂, report, registry₁, rfl, halign, hprune⟩ | ⟨f, rfl, halign⟩
  · obtain ⟨u, hs₁, hs₂⟩ := Store.serves_append.1 hs
    obtain ⟨hgranted₁, -⟩ := Store.granted_append.1 hgranted
    obtain ⟨hreport, -, hu⟩ := runs_alignJobs_steps halign hs₁ hgranted₁ hns hbelieved
    obtain ⟨pruned, rfl⟩ := runs_pruneAll_report hprune
    rw [cronJobs_of_pruneAll hprune hs₂, hu, ← Except.ok.inj hreport]
    exact ⟨rfl, _, rfl, rfl, rfl, rfl⟩
  · obtain ⟨hr, -⟩ := runs_alignJobs_steps halign hs hgranted hns hbelieved
    cases hr

end Schedules

end GaleraOperator
