import GaleraOperator.Proofs.Backup.Schedules
import GaleraOperator.Proofs.Dict
import GaleraOperator.Proofs.Objects

/-!
# Jobs in line with schedules

After a pass over the schedules of a cluster every job that is listed belongs to a declared schedule, and the job of
every schedule is stored as it should be, or is listed and known to the registry. A pass that finds the jobs like that
leaves them alone.
-/

namespace GaleraOperator

open Kube Pass

namespace Backup

/-- What was made from a plan needs no update to do what the plan says, whatever its version. -/
theorem upToDate_cronJob (c : Cluster) (plan : BackupPlan) (account version : Option String) :
    upToDate { cronJob c plan account with metadata.resourceVersion := version } (cronJob c plan account) = true := by
  simp [upToDate, cronJob, CronJob.container?, sameRun]

end Backup

namespace Schedules

variable {settings : Settings} {ns job : String} {c : Cluster} {backup : BackupSpec} {es : List Exchange} {s t : Store}
  {registry registry' registry'' : Registry} {jobs jobs' jobs'' : Objects CronJob} {schedule : Schedule}
  {names names' : List String}

/-- Whether a job is listed for a cluster. -/
def Lists (jobs : Objects CronJob) (ns : String) (c : Cluster) (job : String) : Prop :=
  ∃ stored ∈ jobs.select ns (Labels.selector (.ofList [(clusterLabel, c.name)])), stored.name = job

/-- The job of a schedule is in line: it is stored as it should be, or the registry knows it and it is listed. A
schedule without storage has no job to see to. -/
def InLine (settings : Settings) (ns : String) (c : Cluster) (backup : BackupSpec) (registry : Registry)
    (jobs : Objects CronJob) (schedule : Schedule) : Prop :=
  ∀ plan, plan? backup schedule = some plan →
    (registry.get? (jobName c.name schedule.name) = some plan ∧ Lists jobs ns c (jobName c.name schedule.name)) ∨
      ∃ stored, jobs.find? ns (jobName c.name schedule.name) = some stored ∧
        Backup.upToDate stored (Backup.cronJob c plan settings.serviceAccount) = true

/-- Nothing has happened to a job, and the registry knows of it what it did. -/
structure Untouched (ns : String) (c : Cluster) (job : String) (registry : Registry) (jobs : Objects CronJob)
    (registry' : Registry) (jobs' : Objects CronJob) : Prop where
  known : registry'.get? job = registry.get? job
  stored : jobs'.find? ns job = jobs.find? ns job
  listed : Lists jobs ns c job → Lists jobs' ns c job

theorem Untouched.inLine (h : Untouched ns c (jobName c.name schedule.name) registry jobs registry' jobs')
    (hline : InLine settings ns c backup registry jobs schedule) :
    InLine settings ns c backup registry' jobs' schedule := by
  intro plan hplan
  rw [h.known, h.stored]
  exact (hline plan hplan).imp_left fun ⟨hknown, hlisted⟩ ↦ ⟨hknown, h.listed hlisted⟩

/-- Nothing has happened to jobs but those of some names. -/
structure OnlyTouched (ns : String) (c : Cluster) (names : List String) (registry : Registry) (jobs : Objects CronJob)
    (registry' : Registry) (jobs' : Objects CronJob) : Prop where
  named : Objects.Named jobs'
  others : ∀ job ∉ names, Untouched ns c job registry jobs registry' jobs'
  fresh : ∀ stored ∈ jobs', stored ∈ jobs ∨ stored.name ∈ names

theorem OnlyTouched.refl (h : Objects.Named jobs) : OnlyTouched ns c names registry jobs registry jobs :=
  ⟨h, fun _ _ ↦ ⟨rfl, rfl, id⟩, fun _ hmem ↦ .inl hmem⟩

theorem OnlyTouched.trans (h : OnlyTouched ns c names registry jobs registry' jobs')
    (h' : OnlyTouched ns c names' registry' jobs' registry'' jobs'') :
    OnlyTouched ns c (names ++ names') registry jobs registry'' jobs'' := by
  refine ⟨h'.named, fun job hjob ↦ ?_, fun stored hstored ↦ ?_⟩
  · rw [List.mem_append, not_or] at hjob
    have hfirst := h.others job hjob.1
    have hsecond := h'.others job hjob.2
    exact ⟨hsecond.known.trans hfirst.known, hsecond.stored.trans hfirst.stored, hsecond.listed ∘ hfirst.listed⟩
  · rw [List.mem_append]
    rcases h'.fresh stored hstored with hmem | hname
    · exact (h.fresh stored hmem).imp_right .inl
    · exact .inr (.inr hname)

/-- What the registry learns of a job says nothing of others. -/
theorem onlyTouched_insert {plan : BackupPlan} (hnamed : Objects.Named jobs) :
    OnlyTouched ns c [job] registry jobs (registry.insert job plan) jobs := by
  refine ⟨hnamed, fun other hother ↦ ⟨?_, rfl, id⟩, fun _ hmem ↦ .inl hmem⟩
  rw [Dict.get?_insert, if_neg (List.ne_of_not_mem_cons hother)]

/-- Putting a job in its place touches no other one. -/
theorem onlyTouched_put {new : CronJob} {plan : BackupPlan} (hnamed : Objects.Named jobs)
    (hname : new.metadata.name = some job) :
    OnlyTouched ns c [job] registry jobs (registry.insert job plan) (jobs.put new) := by
  have hnameOf : Objects.nameOf new = job := congrArg (Option.getD · "") hname
  have hsome : new.metadata.name.isSome := by rw [hname, Option.isSome_some]
  refine ⟨hnamed.put hsome, fun other hother ↦ ⟨?_, ?_, ?_⟩, fun stored hstored ↦ ?_⟩
  · rw [Dict.get?_insert, if_neg (List.ne_of_not_mem_cons hother)]
  · have helse : Objects.isAt ns other new = false := by
      simp [Objects.isAt, hnameOf, Ne.symm (List.ne_of_not_mem_cons hother)]
    rw [Objects.find?_put, helse]
    rfl
  · rintro ⟨stored, hstored, rfl⟩
    obtain ⟨hmem, hselected⟩ := List.mem_filter.1 hstored
    have hne : Objects.nameOf stored ≠ Objects.nameOf new := by
      rw [hnameOf, Objects.nameOf_cronJob (hnamed stored hmem)]
      exact List.ne_of_not_mem_cons hother
    exact ⟨stored, List.mem_filter.2 ⟨Objects.mem_put_of_mem hmem hne, hselected⟩, rfl⟩
  · refine (Objects.mem_put hstored).symm.imp_right ?_
    rintro rfl
    rw [← Objects.nameOf_cronJob hsome]
    exact List.mem_singleton.2 hnameOf

variable {σ : Type} {m m' : σ} {desired : CronJob}

/-- How a job is brought in line. -/
inductive JobApplied (ns : String) (desired : CronJob) (s : Store) : List Exchange → JobChange → Store → Prop where
  | kept {es : List Exchange} {stored : CronJob} (found : s.cronJobs.find? ns desired.name = some stored)
      (same : Backup.upToDate stored desired = true) (reads : Reads es) : JobApplied ns desired s es .kept s
  | created {es : List Exchange} (absent : s.cronJobs.find? ns desired.name = none) :
      JobApplied ns desired s es .created { s with cronJobs := s.cronJobs.put desired }
  | updated {es : List Exchange} {stored : CronJob} (found : s.cronJobs.find? ns desired.name = some stored)
      (differs : Backup.upToDate stored desired = false) :
      JobApplied ns desired s es .updated { s with
        cronJobs := s.cronJobs.put { desired with metadata.resourceVersion := stored.metadata.resourceVersion } }

/-- Bringing a job in line is done, or refused before anything is written. -/
theorem runs_applyJob_cases {r : Except Failure JobChange}
    (h : (applyJob ns desired).Runs m es r m') (hs : s.Serves es t) :
    m' = m ∧ (Store.Refused es r ∧ t = s ∨ ∃ change, r = .ok change ∧ JobApplied ns desired s es change t) := by
  rcases runs_call_bind.1 h with ⟨e, rfl, rfl, rfl⟩ | ⟨found?, rest, rfl, hrest⟩
  · obtain ⟨⟨fault, rfl⟩, rfl⟩ := Store.serves_error.1 hs
    exact ⟨rfl, .inl ⟨Store.refused_self, rfl⟩⟩
  have hfound : found? = s.cronJobs.find? ns desired.name := (Store.serves_ok.1 hs).1
  have hserves : s.Serves rest t := (Store.serves_ok.1 hs).2
  cases found? with
  | none =>
    rcases runs_call_bind.1 hrest with ⟨e, rfl, rfl, rfl⟩ | ⟨_, last, rfl, hend⟩
    · obtain ⟨⟨fault, rfl⟩, rfl⟩ := Store.serves_error.1 hserves
      exact ⟨rfl, .inl ⟨Store.refused_self.cons, rfl⟩⟩
    · obtain ⟨rfl, rfl, rfl⟩ := runs_pure.1 hend
      obtain rfl : t = { s with cronJobs := s.cronJobs.put desired } := (Store.serves_ok.1 hserves).2
      exact ⟨rfl, .inr ⟨_, rfl, .created hfound.symm⟩⟩
  | some stored =>
    by_cases hsame : Backup.upToDate stored desired = true
    · simp only [hsame, if_true] at hrest
      obtain ⟨rfl, rfl, rfl⟩ := runs_pure.1 hrest
      obtain rfl : t = s := hserves
      exact ⟨rfl, .inr ⟨_, rfl, .kept hfound.symm hsame (by simp [Call.isWrite])⟩⟩
    · simp only [hsame, Bool.false_eq_true, if_false] at hrest
      rcases runs_call_bind.1 hrest with ⟨e, rfl, rfl, rfl⟩ | ⟨_, last, rfl, hend⟩
      · obtain ⟨⟨fault, rfl⟩, rfl⟩ := Store.serves_error.1 hserves
        exact ⟨rfl, .inl ⟨Store.refused_self.cons, rfl⟩⟩
      · obtain ⟨rfl, rfl, rfl⟩ := runs_pure.1 hend
        obtain rfl : t = { s with
            cronJobs := s.cronJobs.put { desired with metadata.resourceVersion := stored.metadata.resourceVersion } } :=
          (Store.serves_ok.1 hserves).2
        exact ⟨rfl, .inr ⟨_, rfl, .updated hfound.symm (Bool.eq_false_iff.2 hsame)⟩⟩

theorem runs_applyJob {r : Except Failure JobChange} (h : (applyJob ns desired).Runs m es r m') (hs : s.Serves es t)
    (hgranted : Store.Granted es) : m' = m ∧ ∃ change, r = .ok change ∧ JobApplied ns desired s es change t := by
  obtain ⟨hm, ⟨hrefused, -⟩ | happlied⟩ := runs_applyJob_cases h hs
  · exact absurd hrefused hgranted.not_refused
  · exact ⟨hm, happlied⟩

theorem schedule_of_plan? {plan : BackupPlan} (h : plan? backup schedule = some plan) : plan.schedule = schedule := by
  obtain ⟨storage, -, rfl⟩ := Option.map_eq_some_iff.1 h
  rfl

theorem name_cronJob {plan : BackupPlan} {account : Option String} (h : plan.schedule = schedule) :
    (Backup.cronJob c plan account).name = jobName c.name schedule.name := by
  rw [← h]
  rfl

/-- What was made from a plan is found under the name of the schedule's job. -/
theorem find?_put_cronJob {plan : BackupPlan} (account version : Option String) (hns : c.metadata.ns? = some ns)
    (hplan : plan.schedule = schedule) (jobs : Objects CronJob) :
    Objects.find? ns (jobName c.name schedule.name)
      (jobs.put { Backup.cronJob c plan account with metadata.resourceVersion := version }) =
        some { Backup.cronJob c plan account with metadata.resourceVersion := version } := by
  rw [Objects.find?_put, if_pos]
  simp [Objects.isAt, Objects.namespaceOf, Objects.nameOf, HasMeta.metadata, Backup.cronJob, hns, hplan]

namespace JobApplied

variable {plan : BackupPlan} {account : Option String} {change : JobChange}

/-- Afterwards the job is stored as it should be. -/
theorem stored (h : JobApplied ns (Backup.cronJob c plan account) s es change t) (hns : c.metadata.ns? = some ns)
    (hplan : plan.schedule = schedule) : ∃ stored, t.cronJobs.find? ns (jobName c.name schedule.name) = some stored ∧
      Backup.upToDate stored (Backup.cronJob c plan account) = true := by
  cases h with
  | @kept stored found same reads =>
    rw [name_cronJob hplan] at found
    exact ⟨stored, found, same⟩
  | created absent => exact ⟨_, find?_put_cronJob account none hns hplan _, Backup.upToDate_cronJob c plan account none⟩
  | updated found differs =>
    exact ⟨_, find?_put_cronJob account _ hns hplan _, Backup.upToDate_cronJob c plan account _⟩

theorem onlyTouched (h : JobApplied ns (Backup.cronJob c plan account) s es change t)
    (hnamed : Objects.Named s.cronJobs) (hplan : plan.schedule = schedule) :
    OnlyTouched ns c [jobName c.name schedule.name] registry s.cronJobs
      (registry.insert (jobName c.name schedule.name) plan) t.cronJobs := by
  have hname : (Backup.cronJob c plan account).metadata.name = some (jobName c.name schedule.name) := by
    rw [← hplan]
    rfl
  cases h with
  | kept found same reads => exact onlyTouched_insert hnamed
  | created absent => exact onlyTouched_put hnamed hname
  | updated found differs => exact onlyTouched_put hnamed hname

/-- Nothing is written if the job is stored as it should be already. -/
theorem reads {stored : CronJob} (h : JobApplied ns desired s es change t)
    (hstored : s.cronJobs.find? ns desired.name = some stored) (hsame : Backup.upToDate stored desired = true) :
    Reads es := by
  cases h with
  | kept found same reads => exact reads
  | created absent => cases absent.symm.trans hstored
  | updated found differs =>
    obtain rfl := Option.some.inj (found.symm.trans hstored)
    exact absurd hsame (Bool.eq_false_iff.1 differs)

end JobApplied

/-- Applying a schedule brings its job in line and touches no other one. What is in line already is left alone. -/
theorem runs_applySchedule {r : Except Failure JobChange}
    (h : (applySchedule settings ns c backup schedule).Runs registry es r registry') (hs : s.Serves es t)
    (hgranted : Store.Granted es) (hnamed : Objects.Named s.cronJobs) (hns : c.metadata.ns? = some ns)
    (hbelieved : ∀ plan, registry.get? (jobName c.name schedule.name) = some plan →
      Lists s.cronJobs ns c (jobName c.name schedule.name)) :
    (∃ change, r = .ok change) ∧ InLine settings ns c backup registry' t.cronJobs schedule ∧
      OnlyTouched ns c [jobName c.name schedule.name] registry s.cronJobs registry' t.cronJobs ∧
      (InLine settings ns c backup registry s.cronJobs schedule → Reads es) := by
  unfold applySchedule at h
  cases hplan : plan? backup schedule with
  | none =>
    simp only [hplan] at h
    obtain ⟨rfl, rfl, rfl⟩ := runs_pure.1 h
    obtain rfl : t = s := hs
    refine ⟨⟨_, rfl⟩, fun plan hsome ↦ ?_, .refl hnamed, fun _ ↦ reads_nil⟩
    cases hplan.symm.trans hsome
  | some plan =>
    have hschedule := schedule_of_plan? hplan
    simp only [hplan] at h
    rw [runs_get_bind] at h
    by_cases hknown : registry.get? (jobName c.name schedule.name) = some plan
    · simp only [hknown, if_true] at h
      obtain ⟨rfl, rfl, rfl⟩ := runs_pure.1 h
      obtain rfl : t = s := hs
      refine ⟨⟨_, rfl⟩, fun plan' hplan' ↦ ?_, .refl hnamed, fun _ ↦ reads_nil⟩
      obtain rfl := Option.some.inj (hplan.symm.trans hplan')
      exact .inl ⟨hknown, hbelieved plan hknown⟩
    · simp only [hknown, if_false] at h
      rcases runs_bind.1 h with ⟨es₁, es₂, change, _, rfl, happly, hend⟩ | ⟨f, rfl, happly⟩
      · obtain ⟨u, hs₁, hs₂⟩ := Store.serves_append.1 hs
        obtain ⟨hgranted₁, -⟩ := Store.granted_append.1 hgranted
        obtain ⟨rfl, _, hchange, happlied⟩ := runs_applyJob happly hs₁ hgranted₁
        cases hchange
        rw [remember, runs_modify_bind] at hend
        obtain ⟨rfl, rfl, rfl⟩ := runs_pure.1 hend
        obtain rfl : t = u := hs₂
        rw [List.append_nil]
        refine ⟨⟨_, rfl⟩, fun plan' hplan' ↦ ?_, happlied.onlyTouched hnamed hschedule, fun hline ↦ ?_⟩
        · obtain rfl := Option.some.inj (hplan.symm.trans hplan')
          exact .inr (happlied.stored hns hschedule)
        · rcases hline plan hplan with ⟨hbelieved, -⟩ | ⟨stored, hstored, hsame⟩
          · exact absurd hbelieved hknown
          · rw [← name_cronJob hschedule] at hstored
            exact happlied.reads hstored hsame
      · obtain ⟨-, _, hr, -⟩ := runs_applyJob happly hs hgranted
        cases hr

/-- Applying schedules one after the other brings all their jobs in line and touches no others. -/
theorem runs_applySchedules {schedules : List Schedule} {r : Except Failure (List JobChange)}
    (h : (schedules.mapM (applySchedule settings ns c backup)).Runs registry es r registry') (hs : s.Serves es t)
    (hgranted : Store.Granted es) (hnamed : Objects.Named s.cronJobs) (hns : c.metadata.ns? = some ns)
    (hjobs : (schedules.map (jobName c.name ·.name)).Nodup)
    (hbelieved : ∀ schedule ∈ schedules, ∀ plan, registry.get? (jobName c.name schedule.name) = some plan →
      Lists s.cronJobs ns c (jobName c.name schedule.name)) :
    (∃ changes, r = .ok changes) ∧
      (∀ schedule ∈ schedules, InLine settings ns c backup registry' t.cronJobs schedule) ∧
      OnlyTouched ns c (schedules.map (jobName c.name ·.name)) registry s.cronJobs registry' t.cronJobs ∧
      ((∀ schedule ∈ schedules, InLine settings ns c backup registry s.cronJobs schedule) → Reads es) := by
  induction schedules generalizing registry s es r with
  | nil =>
    obtain ⟨rfl, rfl, rfl⟩ := runs_mapM_nil.1 h
    obtain rfl : t = s := hs
    exact ⟨⟨_, rfl⟩, List.forall_mem_nil _, .refl hnamed, fun _ ↦ reads_nil⟩
  | cons first rest ih =>
    rw [List.map_cons, List.nodup_cons] at hjobs
    rw [List.forall_mem_cons] at hbelieved
    rcases runs_mapM_cons.1 h with ⟨es₁, es₂, change, registry₁, r₂, rfl, hfirst, hrest, rfl⟩ | ⟨f, rfl, hfirst⟩
    · obtain ⟨u, hs₁, hs₂⟩ := Store.serves_append.1 hs
      obtain ⟨hgranted₁, hgranted₂⟩ := Store.granted_append.1 hgranted
      obtain ⟨-, hline, htouched, hreads⟩ := runs_applySchedule hfirst hs₁ hgranted₁ hnamed hns hbelieved.1
      -- The jobs of the other schedules are as they were.
      have hothers : ∀ schedule ∈ rest,
          Untouched ns c (jobName c.name schedule.name) registry s.cronJobs registry₁ u.cronJobs := by
        intro schedule hschedule
        refine htouched.others _ fun hmem ↦ hjobs.1 ?_
        rw [← List.mem_singleton.1 hmem]
        exact List.mem_map_of_mem hschedule
      have hbelieved' : ∀ schedule ∈ rest, ∀ plan, registry₁.get? (jobName c.name schedule.name) = some plan →
          Lists u.cronJobs ns c (jobName c.name schedule.name) := by
        intro schedule hschedule plan hplan
        rw [(hothers schedule hschedule).known] at hplan
        exact (hothers schedule hschedule).listed (hbelieved.2 schedule hschedule plan hplan)
      obtain ⟨⟨changes, rfl⟩, hlines, htouched', hreads'⟩ := ih hrest hs₂ hgranted₂ htouched.named hjobs.2 hbelieved'
      refine ⟨⟨change :: changes, rfl⟩, ?_, htouched.trans htouched', fun hready ↦ ?_⟩
      · rw [List.forall_mem_cons]
        exact ⟨(htouched'.others _ hjobs.1).inLine hline, hlines⟩
      · rw [List.forall_mem_cons] at hready
        rw [reads_append]
        refine ⟨hreads hready.1, hreads' fun schedule hschedule ↦ ?_⟩
        exact (hothers schedule hschedule).inLine (hready.2 schedule hschedule)
    · obtain ⟨⟨_, hr⟩, -⟩ := runs_applySchedule hfirst hs hgranted hnamed hns hbelieved.1
      cases hr

/-- Deleting jobs takes out those of the given names. -/
theorem runs_deleteJobs {r : Except Failure Unit} (h : (deleteJobs ns names).Runs m es r m') (hs : s.Serves es t)
    (hgranted : Store.Granted es) : m' = m ∧ r = .ok () ∧ (names = [] → Reads es) ∧ t.cronJobs =
      s.cronJobs.filter fun job ↦ !(Objects.namespaceOf job = ns && names.contains (Objects.nameOf job)) := by
  induction names generalizing s es with
  | nil =>
    obtain ⟨rfl, rfl, rfl⟩ := runs_pure.1 h
    obtain rfl : t = s := hs
    exact ⟨rfl, rfl, fun _ ↦ reads_nil, (List.filter_eq_self.2 fun job _ ↦ by simp).symm⟩
  | cons name names ih =>
    obtain ⟨rest, rfl, hrest, hserves, hgranted⟩ := hgranted.runs_call_bind h hs
    obtain ⟨rfl, rfl, -, hjobs⟩ := ih hrest hserves hgranted
    refine ⟨rfl, rfl, nofun, ?_⟩
    rw [hjobs, Store.perform, Objects.remove, List.filter_filter]
    refine List.filter_congr fun job _ ↦ ?_
    simp only [Objects.isAt, List.contains_cons]
    by_cases hns : Objects.namespaceOf job = ns <;> by_cases hname : Objects.nameOf job = name <;> simp [hns, hname]

/-- What deleting jobs of other names leaves. -/
theorem untouched_filter (hjob : job ∉ names) (hnamed : Objects.Named jobs)
    (hknown : registry'.get? job = registry.get? job) :
    Untouched ns c job registry jobs registry'
      (jobs.filter fun stored ↦ !(Objects.namespaceOf stored = ns && names.contains (Objects.nameOf stored))) := by
  have hkept : ∀ stored : CronJob, Objects.nameOf stored = job →
      (!(Objects.namespaceOf stored = ns && names.contains (Objects.nameOf stored))) = true := by
    rintro stored rfl
    simp [hjob]
  refine ⟨hknown, ?_, ?_⟩
  · rw [Objects.find?, List.find?_filter, Objects.find?]
    congr 1
    funext stored
    by_cases hname : Objects.nameOf stored = job <;> simp [Objects.isAt, hname, hjob]
  · rintro ⟨stored, hstored, hname⟩
    obtain ⟨hmem, hselected⟩ := List.mem_filter.1 hstored
    have hkeep := hkept stored ((Objects.nameOf_cronJob (hnamed stored hmem)).trans hname)
    exact ⟨stored, List.mem_filter.2 ⟨List.mem_filter.2 ⟨hmem, hkeep⟩, hselected⟩, hname⟩

/-- The jobs of all schedules of a cluster are in line. -/
def AllInLine (settings : Settings) (ns : String) (c : Cluster) (registry : Registry) (jobs : Objects CronJob) : Prop :=
  ∀ backup, c.spec.backup = some backup → ∀ schedule ∈ backup.schedules,
    InLine settings ns c backup registry jobs schedule

/-- The jobs of a cluster need nothing more: no others are listed than those of its schedules, and these are in line. -/
structure Aligned (settings : Settings) (ns : String) (c : Cluster) (registry : Registry) (jobs : Objects CronJob) :
    Prop where
  declared : ∀ job, Lists jobs ns c job → (declared c).contains job = true
  inLine : AllInLine settings ns c registry jobs

/-- The jobs of the schedules of a cluster are the declared ones. -/
theorem contains_declared_iff :
    (declared c).contains job = true ↔ job ∈ (schedulesOf c).map (jobName c.name ·.name) := by
  cases hbackup : c.spec.backup with
  | none => simp [declared, schedulesOf, hbackup, Dict.contains]
  | some backup =>
    simp only [declared, schedulesOf, hbackup, Option.map_some, Option.getD_some]
    rw [Dict.contains_ofList_iff, List.map_map]
    rfl

/-- The names of the jobs that are listed for a cluster. -/
def listedJobs (ns : String) (c : Cluster) (jobs : Objects CronJob) : List String :=
  (Dict.ofList ((jobs.select ns (Labels.selector (.ofList [(clusterLabel, c.name)]))).map fun stored ↦
    (stored.name, ()))).keys

theorem mem_listedJobs : job ∈ listedJobs ns c jobs ↔ Lists jobs ns c job := by
  rw [listedJobs, ← Dict.contains_iff_mem_keys, Dict.contains_ofList_iff, List.map_map, List.mem_map]
  rfl

theorem runs_listJobs {r : Except Failure (List String)} (h : (listJobs ns c).Runs m es r m') (hs : s.Serves es t)
    (hgranted : Store.Granted es) : m' = m ∧ t = s ∧ Reads es ∧ r = .ok (listedJobs ns c s.cronJobs) := by
  obtain ⟨rest, rfl, hend, hserves, -⟩ := hgranted.runs_call_bind h hs
  obtain ⟨rfl, rfl, rfl⟩ := runs_pure.1 hend
  obtain rfl : t = s := hserves
  exact ⟨rfl, rfl, by simp [Call.isWrite], rfl⟩

theorem runs_applyAll {r : Except Failure (List JobChange)}
    (h : (applyAll settings ns c).Runs registry es r registry') (hs : s.Serves es t)
    (hgranted : Store.Granted es) (hnamed : Objects.Named s.cronJobs) (hns : c.metadata.ns? = some ns)
    (hjobs : ((schedulesOf c).map (jobName c.name ·.name)).Nodup)
    (hbelieved : ∀ job plan, registry.get? job = some plan → Lists s.cronJobs ns c job) :
    (∃ changes, r = .ok changes) ∧ AllInLine settings ns c registry' t.cronJobs ∧
      OnlyTouched ns c ((schedulesOf c).map (jobName c.name ·.name)) registry s.cronJobs registry' t.cronJobs ∧
      (AllInLine settings ns c registry s.cronJobs → Reads es) := by
  unfold applyAll at h
  cases hbackup : c.spec.backup with
  | none =>
    simp only [hbackup] at h
    obtain ⟨rfl, rfl, rfl⟩ := runs_pure.1 h
    obtain rfl : t = s := hs
    refine ⟨⟨_, rfl⟩, fun backup hsome ↦ ?_, .refl hnamed, fun _ ↦ reads_nil⟩
    cases hbackup.symm.trans hsome
  | some backup =>
    simp only [hbackup] at h
    have hschedules : schedulesOf c = backup.schedules := by
      rw [schedulesOf, hbackup]
      rfl
    rw [hschedules] at hjobs ⊢
    obtain ⟨hchanges, hlines, htouched, hreads⟩ := runs_applySchedules h hs hgranted hnamed hns hjobs
      fun schedule _ plan hplan ↦ hbelieved _ plan hplan
    refine ⟨hchanges, fun backup' hsome ↦ ?_, htouched, fun hready ↦ hreads (hready backup hbackup)⟩
    obtain rfl := Option.some.inj (hbackup.symm.trans hsome)
    exact hlines

theorem mem_schedulesOf (h : c.spec.backup = some backup) : schedule ∈ schedulesOf c ↔ schedule ∈ backup.schedules := by
  rw [schedulesOf, h]
  rfl

/-- Schedules were applied, listed jobs that nobody declares are taken out, and the registry keeps what is declared. -/
theorem aligned_of_touched {listed : List String} (hlisted : ∀ job, job ∈ listed ↔ Lists jobs ns c job)
    (htouched : OnlyTouched ns c ((schedulesOf c).map (jobName c.name ·.name)) registry jobs registry' jobs')
    (hlines : AllInLine settings ns c registry' jobs') :
    Aligned settings ns c (registry'.retain (declared c).contains) (jobs'.filter fun stored ↦
      !(Objects.namespaceOf stored = ns &&
        (listed.filter fun job ↦ !(declared c).contains job).contains (Objects.nameOf stored))) := by
  constructor
  · rintro _ ⟨stored, hstored, rfl⟩
    obtain ⟨hleft, hselected⟩ := List.mem_filter.1 hstored
    obtain ⟨hmem, hkept⟩ := List.mem_filter.1 hleft
    rw [Objects.nameOf_cronJob (htouched.named stored hmem)] at hkept
    rcases htouched.fresh stored hmem with hold | hname
    · have hlist : stored.name ∈ listed := (hlisted _).2 ⟨stored, List.mem_filter.2 ⟨hold, hselected⟩, rfl⟩
      have hns : Objects.namespaceOf stored = ns := of_decide_eq_true (Bool.and_eq_true_iff.1 hselected).1
      simpa [hns, hlist] using hkept
    · exact contains_declared_iff.2 hname
  · intro backup hbackup schedule hschedule
    have hdeclared : (declared c).contains (jobName c.name schedule.name) = true :=
      contains_declared_iff.2 (List.mem_map_of_mem ((mem_schedulesOf hbackup).2 hschedule))
    refine Untouched.inLine (untouched_filter ?_ htouched.named ?_) (hlines backup hbackup schedule hschedule)
    · simp [hdeclared]
    · rw [Dict.get?_retain, if_pos hdeclared]

/-- The registry may forget jobs that are not listed. -/
theorem AllInLine.retain {listed : List String} (h : AllInLine settings ns c registry jobs)
    (hlisted : ∀ job, job ∈ listed ↔ Lists jobs ns c job) :
    AllInLine settings ns c (registry.retain listed.contains) jobs := by
  intro backup hbackup schedule hschedule plan hplan
  refine (h backup hbackup schedule hschedule plan hplan).imp_left fun ⟨hknown, hlist⟩ ↦ ⟨?_, hlist⟩
  rw [Dict.get?_retain, if_pos (List.contains_iff_mem.2 ((hlisted _).2 hlist)), hknown]

/-- A pass that is refused nothing leaves the jobs of a cluster with nothing more to do, and writes nothing if that is
how it found them. -/
theorem runs_alignJobs {r : Except Failure (List JobChange × List String)}
    (h : (alignJobs settings ns c).Runs registry es r registry') (hs : s.Serves es t) (hgranted : Store.Granted es)
    (hnamed : Objects.Named s.cronJobs) (hns : c.metadata.ns? = some ns)
    (hjobs : ((schedulesOf c).map (jobName c.name ·.name)).Nodup) :
    (∃ outcome, r = .ok outcome) ∧ Objects.Named t.cronJobs ∧ Aligned settings ns c registry' t.cronJobs ∧
      (Aligned settings ns c registry s.cronJobs → Reads es) := by
  rcases runs_bind.1 h with ⟨es₁, es₂, listed, registry₁, rfl, hlist, hrest⟩ | ⟨f, rfl, hlist⟩
  · obtain ⟨u, hs₁, hs₂⟩ := Store.serves_append.1 hs
    obtain ⟨hgranted₁, hgranted₂⟩ := Store.granted_append.1 hgranted
    obtain ⟨rfl, rfl, hreads₁, hr⟩ := runs_listJobs hlist hs₁ hgranted₁
    have hlisted : ∀ job, job ∈ listed ↔ Lists u.cronJobs ns c job := by
      rw [Except.ok.inj hr]
      exact fun _ ↦ mem_listedJobs
    rw [remember, runs_modify_bind] at hrest
    have hbelieved : ∀ job plan, (registry₁.retain listed.contains).get? job = some plan →
        Lists u.cronJobs ns c job := by
      intro job plan hplan
      rw [Dict.get?_retain] at hplan
      split at hplan
      · next hmem => exact (hlisted job).1 (List.contains_iff_mem.1 hmem)
      · cases hplan
    rcases runs_bind.1 hrest with ⟨es₃, es₄, changes, registry₂, rfl, happly, hafter⟩ | ⟨f, rfl, happly⟩
    · obtain ⟨v, hs₃, hs₄⟩ := Store.serves_append.1 hs₂
      obtain ⟨hgranted₃, hgranted₄⟩ := Store.granted_append.1 hgranted₂
      obtain ⟨-, hlines, htouched, hreads₃⟩ := runs_applyAll happly hs₃ hgranted₃ hnamed hns hjobs hbelieved
      rcases runs_bind.1 hafter with ⟨es₅, es₆, _, registry₃, rfl, hdelete, hend⟩ | ⟨f, rfl, hdelete⟩
      · obtain ⟨w, hs₅, hs₆⟩ := Store.serves_append.1 hs₄
        obtain ⟨hgranted₅, -⟩ := Store.granted_append.1 hgranted₄
        obtain ⟨rfl, -, hreads₅, hleft⟩ := runs_deleteJobs hdelete hs₅ hgranted₅
        rw [remember, runs_modify_bind] at hend
        obtain ⟨rfl, rfl, rfl⟩ := runs_pure.1 hend
        obtain rfl : t = w := hs₆
        rw [hleft]
        refine ⟨⟨_, rfl⟩, fun stored hmem ↦ htouched.named stored (List.mem_of_mem_filter hmem),
          aligned_of_touched hlisted htouched hlines, fun haligned ↦ ?_⟩
        have hnone : (listed.filter fun job ↦ !(declared c).contains job) = [] :=
          List.filter_eq_nil_iff.2 fun job hmem ↦ by simp [haligned.declared job ((hlisted job).1 hmem)]
        have hready := hreads₃ (haligned.inLine.retain hlisted)
        simpa using ⟨hreads₁, hready, hreads₅ hnone⟩
      · obtain ⟨-, hr, -⟩ := runs_deleteJobs hdelete hs₄ hgranted₄
        cases hr
    · obtain ⟨⟨_, hr⟩, -⟩ := runs_applyAll happly hs₂ hgranted₂ hnamed hns hjobs hbelieved
      cases hr
  · obtain ⟨-, -, -, hr⟩ := runs_listJobs hlist hs hgranted
    cases hr

end Schedules

end GaleraOperator
