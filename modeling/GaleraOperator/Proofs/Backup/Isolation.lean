import GaleraOperator.Proofs.Backup.Convergence

/-!
# Clusters side by side

A pass over the schedules of a cluster lists jobs and records by the label of the cluster, but it makes and replaces
jobs by name, and the name of a job is joined from those of the cluster and the schedule, and cut. So two clusters of
one namespace may have one name for a job each. Whatever it is refused, a pass leaves the records of other clusters
alone, and those of their jobs that it makes none in the place of. If it ends well, it has taken over all the others.
-/

namespace GaleraOperator

open Kube Pass

namespace Schedules

variable {settings : Settings} {account : Option String} {ns name cluster : String} {c other : Cluster}
  {es : List Exchange} {s t u : Store} {registry registry' : Registry} {jobs jobs' jobs'' : Objects CronJob}
  {schedule : Schedule} {schedules : List Schedule} {backup : BackupSpec} {job stored new : CronJob} {plan : BackupPlan}

/-- What stands between may be a part of the cluster's name or of the schedule's. -/
theorem jobName_append (cluster middle schedule : String) :
    jobName (cluster ++ "-backup-" ++ middle) schedule = jobName cluster (middle ++ "-backup-" ++ schedule) := by
  simp only [jobName, String.append_assoc]

/-- A long name of a cluster leaves no room for that of a schedule. -/
theorem jobName_of_long (schedule : String) (h : maxJobNameLength ≤ cluster.toList.length) :
    jobName cluster schedule = truncateName cluster maxJobNameLength := by
  rw [jobName, truncateName, truncateName, String.toList_append, String.toList_append, List.append_assoc,
    List.take_append_of_le_length h]

/-- Whether a cluster makes a job of a name: one of its schedules with a storage gives it that name. -/
def makes (c : Cluster) (name : String) : Bool :=
  (schedulesOf c).any fun schedule ↦ (planOf c schedule).isSome && jobName c.name schedule.name = name

/-- The jobs of another cluster that a cluster makes none in the place of. -/
def apartFrom (ns : String) (c other : Cluster) (jobs : Objects CronJob) : List CronJob :=
  (labelled ns other jobs).filter fun job ↦ !makes c (Objects.nameOf job)

/-- The records of a namespace that carry the label of a cluster. -/
def recordsLabelled (ns : String) (c : Cluster) (records : Objects Backup) : List Backup :=
  records.filter fun b ↦ Objects.namespaceOf b = ns && b.metadata.labelsOrNone.get? clusterLabel = some c.name

/-- All that carries the label of a cluster is as it was. -/
structure Spared (ns : String) (c : Cluster) (before after : Store) : Prop where
  jobs : labelled ns c after.cronJobs = labelled ns c before.cronJobs
  records : recordsLabelled ns c after.backups = recordsLabelled ns c before.backups

/-- What a pass over the schedules of one cluster comes to for another one of its namespace. -/
structure Beside (ns : String) (c other : Cluster) (before after : Store) (r : Except Failure ScheduleOutcome) :
    Prop where
  records : recordsLabelled ns other after.backups = recordsLabelled ns other before.backups
  /-- The jobs that the one cluster makes none in the place of are as they were. -/
  apart : apartFrom ns c other after.cronJobs = apartFrom ns c other before.cronJobs
  /-- The other cluster gets no jobs. -/
  sublist : (labelled ns other after.cronJobs).Sublist (labelled ns other before.cronJobs)
  /-- If the pass ends well, it leaves nothing else. -/
  taken : ∀ outcome, r = .ok outcome → labelled ns other after.cronJobs = apartFrom ns c other before.cronJobs

theorem makes_iff : makes c name = true ↔
    ∃ schedule ∈ schedulesOf c, (planOf c schedule).isSome ∧ jobName c.name schedule.name = name := by
  simp [makes]

/-- A cluster makes a job of another one if the other's name goes on, after its own, as the name of its schedule does
before the other's schedule. -/
theorem makes_of_append {middle : String} (hother : other.name = c.name ++ "-backup-" ++ middle)
    (hschedule : schedule ∈ schedulesOf c) (hplan : (planOf c schedule).isSome)
    (hname : schedule.name = middle ++ "-backup-" ++ name) : makes c (jobName other.name name) = true := by
  rw [hother, jobName_append, ← hname]
  exact makes_iff.2 ⟨schedule, hschedule, hplan, rfl⟩

/-- A cluster makes all jobs of another one if their names are long and begin alike, whatever the schedules are called. -/
theorem makes_of_long (hlong : maxJobNameLength ≤ c.name.toList.length)
    (hlong' : maxJobNameLength ≤ other.name.toList.length)
    (halike : truncateName other.name maxJobNameLength = truncateName c.name maxJobNameLength)
    (hschedule : schedule ∈ schedulesOf c) (hplan : (planOf c schedule).isSome) (name : String) :
    makes c (jobName other.name name) = true := by
  rw [jobName_of_long name hlong', halike, ← jobName_of_long schedule.name hlong]
  exact makes_iff.2 ⟨schedule, hschedule, hplan, rfl⟩

/-- A job belongs to one cluster. -/
theorem not_belongsTo (hne : other.name ≠ c.name) (h : belongsTo c job = true) : belongsTo other job = false := by
  rw [belongsTo, decide_eq_true_eq] at h
  rw [belongsTo, h, decide_eq_false_iff_not, Option.some.injEq]
  exact Ne.symm hne

/-- What is left of the jobs of another cluster: none is added, and those that a cluster makes none in the place of are
as they were. -/
structure LeavesJobs (ns : String) (c other : Cluster) (jobs jobs' : Objects CronJob) : Prop where
  sublist : (labelled ns other jobs').Sublist (labelled ns other jobs)
  apart : apartFrom ns c other jobs' = apartFrom ns c other jobs

theorem LeavesJobs.refl : LeavesJobs ns c other jobs jobs := ⟨.refl _, rfl⟩

theorem LeavesJobs.trans (h : LeavesJobs ns c other jobs jobs') (h' : LeavesJobs ns c other jobs' jobs'') :
    LeavesJobs ns c other jobs jobs'' :=
  ⟨h'.sublist.trans h.sublist, h'.apart.trans h.apart⟩

/-- A cluster may put its own jobs in the places of those that it makes. -/
theorem LeavesJobs.put (hne : other.name ≠ c.name) (hlabel : belongsTo c new = true)
    (hmakes : makes c (Objects.nameOf new) = true) : LeavesJobs ns c other jobs (jobs.put new) := by
  have hother := not_belongsTo hne hlabel
  refine ⟨Objects.sublist_filter_put (by simp [hother]), ?_⟩
  simp only [apartFrom, labelled, List.filter_filter]
  refine Objects.filter_put (by simp [hother]) fun y _ hat ↦ ?_
  rw [(Objects.isAt_iff.1 hat).2, hmakes]
  rfl

/-- A name that no job of a cluster has. -/
def Free (ns : String) (c : Cluster) (jobs : Objects CronJob) (name : String) : Prop :=
  ∀ job ∈ labelled ns c jobs, Objects.nameOf job ≠ name

theorem Free.of_leaves (h : Free ns other jobs name) (hleaves : LeavesJobs ns c other jobs jobs') :
    Free ns other jobs' name :=
  fun job hjob ↦ h job (hleaves.sublist.subset hjob)

/-- A name under which the job of one cluster is held is free of others. -/
theorem free_of_find? (hdistinct : Objects.Distinct jobs) (hne : other.name ≠ c.name)
    (hfound : jobs.find? ns name = some stored) (hlabel : belongsTo c stored = true) : Free ns other jobs name := by
  intro job hjob hname
  obtain ⟨hmem, hns, hother⟩ := mem_labelled.1 hjob
  have hfound' := hdistinct.find?_eq_some hmem (Objects.isAt_iff.2 ⟨hns, hname⟩)
  obtain rfl : job = stored := Option.some.inj (hfound'.symm.trans hfound)
  rw [not_belongsTo hne hlabel] at hother
  cases hother

/-- The names of the jobs that are listed for one cluster are free of others. -/
theorem free_of_mem_listedJobs (hcluster : ',' ∉ c.name.toList) (hnamed : Objects.Named jobs)
    (hdistinct : Objects.Distinct jobs) (hne : other.name ≠ c.name) (h : name ∈ listedJobs ns c jobs) :
    Free ns other jobs name := by
  obtain ⟨stored, hstored, rfl⟩ := mem_listedJobs.1 h
  rw [select_clusterLabel hcluster] at hstored
  exact free_of_find? hdistinct hne (find?_of_mem_labelled hnamed hdistinct hstored) (mem_labelled.1 hstored).2.2

/-- The jobs are told apart, and the registry knows of none that is another cluster's. -/
structure Apart (ns : String) (other : Cluster) (registry : Registry) (jobs : Objects CronJob) : Prop where
  distinct : Objects.Distinct jobs
  free : ∀ name plan, registry.get? name = some plan → Free ns other jobs name

/-- The job of a schedule is put in a place of the cluster's own, and the jobs are told apart as before. -/
theorem JobApplied.leaves {change : JobChange} (h : JobApplied ns (Backup.cronJob c plan account) s es change t)
    (hne : other.name ≠ c.name) (hschedule : schedule ∈ schedulesOf c) (hplan : planOf c schedule = some plan)
    (hdistinct : Objects.Distinct s.cronJobs) :
    LeavesJobs ns c other s.cronJobs t.cronJobs ∧ Objects.Distinct t.cronJobs := by
  have hput (version : Option String) : LeavesJobs ns c other s.cronJobs
      (s.cronJobs.put { Backup.cronJob c plan account with metadata.resourceVersion := version }) := by
    refine .put hne (belongsTo_of_upToDate (Backup.upToDate_cronJob c plan account version)) ?_
    refine makes_iff.2 ⟨schedule, hschedule, by rw [hplan, Option.isSome_some], ?_⟩
    rw [← schedule_of_planOf hplan]
    rfl
  cases h with
  | kept => exact ⟨.refl, hdistinct⟩
  | created => exact ⟨hput none, hdistinct.put _⟩
  | updated => exact ⟨hput _, hdistinct.put _⟩

section Runs

variable (hns : c.metadata.ns? = some ns) (hne : other.name ≠ c.name)

include hns hne

/-- Applying a schedule leaves the jobs of another cluster, but for one in the place of the schedule's. -/
theorem runs_applySchedule_beside {r : Except Failure JobChange}
    (h : (applySchedule settings ns c backup schedule).Runs registry es r registry') (hs : s.Serves es t)
    (hbackup : c.spec.backup = some backup) (hschedule : schedule ∈ schedulesOf c)
    (hapart : Apart ns other registry s.cronJobs) :
    LeavesJobs ns c other s.cronJobs t.cronJobs ∧ Apart ns other registry' t.cronJobs ∧
      ∀ change, r = .ok change → (planOf c schedule).isSome →
        Free ns other t.cronJobs (jobName c.name schedule.name) := by
  unfold applySchedule at h
  rw [← planOf_eq hbackup] at h
  cases hplan : planOf c schedule with
  | none =>
    simp only [hplan] at h
    obtain ⟨rfl, rfl, rfl⟩ := runs_pure.1 h
    obtain rfl : t = s := hs
    refine ⟨.refl, hapart, ?_⟩
    rintro _ _ ⟨⟩
  | some plan =>
    simp only [hplan] at h
    rw [runs_get_bind] at h
    by_cases hknown : registry.get? (jobName c.name schedule.name) = some plan
    · simp only [hknown, if_true] at h
      obtain ⟨rfl, rfl, rfl⟩ := runs_pure.1 h
      obtain rfl : t = s := hs
      exact ⟨.refl, hapart, fun _ _ _ ↦ hapart.free _ _ hknown⟩
    · simp only [hknown, if_false] at h
      rcases runs_bind.1 h with ⟨es₁, es₂, change, _, rfl, happly, hend⟩ | ⟨f, rfl, happly⟩
      · obtain ⟨u, hs₁, hs₂⟩ := Store.serves_append.1 hs
        obtain ⟨rfl, ⟨hrefused, -⟩ | ⟨_, hchange, happlied⟩⟩ := runs_applyJob_cases happly hs₁
        · exact absurd hrefused Store.not_refused_ok
        cases hchange
        rw [remember, runs_modify_bind] at hend
        obtain ⟨rfl, rfl, rfl⟩ := runs_pure.1 hend
        obtain rfl : t = u := hs₂
        obtain ⟨hleaves, hdistinct⟩ := happlied.leaves hne hschedule hplan hapart.distinct
        obtain ⟨stored, hfound, hsame⟩ := happlied.stored hns (schedule_of_planOf hplan)
        have hfree : Free ns other t.cronJobs (jobName c.name schedule.name) :=
          free_of_find? hdistinct hne hfound (belongsTo_of_upToDate hsame)
        refine ⟨hleaves, ⟨hdistinct, fun name plan' hname ↦ ?_⟩, fun _ _ _ ↦ hfree⟩
        rw [Dict.get?_insert] at hname
        split at hname
        · next heq =>
          rw [heq]
          exact hfree
        · exact (hapart.free name plan' hname).of_leaves hleaves
      · obtain ⟨rfl, ⟨-, rfl⟩ | ⟨_, hr, -⟩⟩ := runs_applyJob_cases happly hs
        · refine ⟨.refl, hapart, ?_⟩
          rintro _ ⟨⟩
        · cases hr

/-- Applying schedules one after the other leaves the jobs of another cluster, but for those in the places of theirs. -/
theorem runs_applySchedules_beside {r : Except Failure (List JobChange)}
    (h : (schedules.mapM (applySchedule settings ns c backup)).Runs registry es r registry') (hs : s.Serves es t)
    (hbackup : c.spec.backup = some backup) (hschedules : ∀ schedule ∈ schedules, schedule ∈ schedulesOf c)
    (hapart : Apart ns other registry s.cronJobs) :
    LeavesJobs ns c other s.cronJobs t.cronJobs ∧
      ∀ changes, r = .ok changes → ∀ schedule ∈ schedules, (planOf c schedule).isSome →
        Free ns other t.cronJobs (jobName c.name schedule.name) := by
  induction schedules generalizing registry s es r with
  | nil =>
    obtain ⟨rfl, -, -⟩ := runs_mapM_nil.1 h
    obtain rfl : t = s := hs
    exact ⟨.refl, fun _ _ ↦ List.forall_mem_nil _⟩
  | cons first rest ih =>
    obtain ⟨hfirst, hrest⟩ := List.forall_mem_cons.1 hschedules
    rcases runs_mapM_cons.1 h with ⟨es₁, es₂, change, registry₁, r₂, rfl, happly, hafter, rfl⟩ | ⟨f, rfl, happly⟩
    · obtain ⟨u, hs₁, hs₂⟩ := Store.serves_append.1 hs
      obtain ⟨hleaves, hapart', hfree⟩ := runs_applySchedule_beside hns hne happly hs₁ hbackup hfirst hapart
      obtain ⟨hleaves', hfree'⟩ := ih hafter hs₂ hrest hapart'
      refine ⟨hleaves.trans hleaves', fun changes hr ↦ List.forall_mem_cons.2 ⟨fun hplan ↦ ?_, ?_⟩⟩
      · exact (hfree change rfl hplan).of_leaves hleaves'
      · cases r₂ with
        | error => cases hr
        | ok changes' => exact hfree' changes' rfl
    · refine ⟨(runs_applySchedule_beside hns hne happly hs hbackup hfirst hapart).1, ?_⟩
      rintro _ ⟨⟩

theorem runs_applyAll_beside {r : Except Failure (List JobChange)}
    (h : (applyAll settings ns c).Runs registry es r registry') (hs : s.Serves es t)
    (hapart : Apart ns other registry s.cronJobs) :
    LeavesJobs ns c other s.cronJobs t.cronJobs ∧
      ∀ changes, r = .ok changes → ∀ schedule ∈ schedulesOf c, (planOf c schedule).isSome →
        Free ns other t.cronJobs (jobName c.name schedule.name) := by
  unfold applyAll at h
  cases hbackup : c.spec.backup with
  | none =>
    simp only [hbackup] at h
    obtain ⟨rfl, -, -⟩ := runs_pure.1 h
    obtain rfl : t = s := hs
    have hnone : schedulesOf c = [] := by rw [schedulesOf, hbackup]; rfl
    rw [hnone]
    exact ⟨.refl, fun _ _ ↦ List.forall_mem_nil _⟩
  | some backup =>
    simp only [hbackup] at h
    rw [schedulesOf_eq hbackup]
    exact runs_applySchedules_beside hns hne h hs hbackup (fun _ hmem ↦ (schedulesOf_eq hbackup).symm ▸ hmem) hapart

omit hns hne in
theorem runs_deleteJobs_beside {σ : Type} {m m' : σ} {names : List String} {r : Except Failure Unit}
    (h : (deleteJobs ns names).Runs m es r m') (hs : s.Serves es t)
    (hfree : ∀ name ∈ names, Free ns other s.cronJobs name) :
    labelled ns other t.cronJobs = labelled ns other s.cronJobs := by
  induction names generalizing s es with
  | nil =>
    obtain ⟨rfl, -, -⟩ := runs_pure.1 h
    obtain rfl : t = s := hs
    rfl
  | cons name names ih =>
    obtain ⟨hname, hnames⟩ := List.forall_mem_cons.1 hfree
    rcases runs_call_bind.1 h with ⟨e, rfl, -, -⟩ | ⟨_, rest, rfl, hrest⟩
    · obtain rfl : t = s := (Store.serves_error.1 hs).2
      rfl
    · have hremoved : labelled ns other (s.cronJobs.remove ns name) = labelled ns other s.cronJobs := by
        refine Objects.filter_remove fun job hjob hat ↦ Bool.eq_false_iff.2 fun hlabelled ↦ ?_
        exact hname job (List.mem_filter.2 ⟨hjob, hlabelled⟩) (Objects.isAt_iff.1 hat).2
      refine (ih hrest (Store.serves_ok.1 hs).2 fun name' hmem ↦ ?_).trans hremoved
      rw [Free]
      exact hremoved.symm ▸ hnames name' hmem

/-- Looking after the jobs of one cluster leaves those of another one, but for those in the places of its own. -/
theorem runs_alignJobs_beside {r : Except Failure (List JobChange × List String)}
    (h : (alignJobs settings ns c).Runs registry es r registry') (hs : s.Serves es t) (hcluster : ',' ∉ c.name.toList)
    (hnamed : Objects.Named s.cronJobs) (hdistinct : Objects.Distinct s.cronJobs) :
    LeavesJobs ns c other s.cronJobs t.cronJobs ∧
      ∀ report, r = .ok report → ∀ schedule ∈ schedulesOf c, (planOf c schedule).isSome →
        Free ns other t.cronJobs (jobName c.name schedule.name) := by
  rw [alignJobs, listJobs, bind_assoc] at h
  rcases runs_call_bind.1 h with ⟨e, rfl, rfl, -⟩ | ⟨found, rest, rfl, hrest⟩
  · obtain rfl : t = s := (Store.serves_error.1 hs).2
    refine ⟨.refl, ?_⟩
    rintro _ ⟨⟩
  have hserves : s.Serves rest t := (Store.serves_ok.1 hs).2
  obtain rfl : found = s.cronJobs.select ns (Labels.selector (.ofList [(clusterLabel, c.name)])) :=
    (Store.serves_ok.1 hs).1
  rw [pure_bind, remember, runs_modify_bind] at hrest
  have hlisted (name : String) (hname : name ∈ listedJobs ns c s.cronJobs) : Free ns other s.cronJobs name :=
    free_of_mem_listedJobs hcluster hnamed hdistinct hne hname
  have hapart : Apart ns other (registry.retain (listedJobs ns c s.cronJobs).contains) s.cronJobs := by
    refine ⟨hdistinct, fun name plan hknown ↦ ?_⟩
    rw [Dict.get?_retain] at hknown
    split at hknown
    · next hmem => exact hlisted name (List.contains_iff_mem.1 hmem)
    · cases hknown
  rcases runs_bind.1 hrest with ⟨es₁, es₂, changes, registry₁, rfl, happly, hafter⟩ | ⟨f, rfl, happly⟩
  · obtain ⟨u, hs₁, hs₂⟩ := Store.serves_append.1 hserves
    obtain ⟨hleaves, hfree⟩ := runs_applyAll_beside hns hne happly hs₁ hapart
    have hundeclared : ∀ name ∈ (listedJobs ns c s.cronJobs).filter (fun job ↦ !(declared c).contains job),
        Free ns other u.cronJobs name :=
      fun name hname ↦ (hlisted name (List.mem_of_mem_filter hname)).of_leaves hleaves
    have hkept : labelled ns other t.cronJobs = labelled ns other u.cronJobs := by
      rcases runs_bind.1 hafter with ⟨es₃, es₄, _, registry₂, rfl, hdelete, hend⟩ | ⟨f, rfl, hdelete⟩
      · obtain ⟨v, hs₃, hs₄⟩ := Store.serves_append.1 hs₂
        rw [remember, runs_modify_bind] at hend
        obtain ⟨rfl, -, -⟩ := runs_pure.1 hend
        obtain rfl : t = v := hs₄
        exact runs_deleteJobs_beside hdelete hs₃ hundeclared
      · exact runs_deleteJobs_beside hdelete hs₂ hundeclared
    have hleaves' : LeavesJobs ns c other u.cronJobs t.cronJobs := ⟨hkept ▸ .refl _, congrArg (List.filter _) hkept⟩
    refine ⟨hleaves.trans hleaves', fun _ _ schedule hschedule hplan ↦ ?_⟩
    exact (hfree changes rfl schedule hschedule hplan).of_leaves hleaves'
  · refine ⟨(runs_applyAll_beside hns hne happly hserves hapart).1, ?_⟩
    rintro _ ⟨⟩

end Runs

theorem selector_recordLabels (cluster job : String) : (recordLabels cluster job).selector =
    Labels.pairText (ancestorLabel, job) ++ "," ++ Labels.pairText (clusterLabel, cluster) := by
  have hlt : ancestorLabel < clusterLabel := by decide +kernel
  have hentries : (recordLabels cluster job).toList = [(ancestorLabel, job), (clusterLabel, cluster)] := by
    change Dict.insertEntry ancestorLabel job [(clusterLabel, cluster)] = _
    rw [Dict.insertEntry, if_pos hlt]
  rw [Labels.selector, hentries]
  simp [String.append_assoc]

theorem mem_recordsLabelled {b : Backup} {records : Objects Backup} : b ∈ recordsLabelled ns c records ↔
    b ∈ records ∧ Objects.namespaceOf b = ns ∧ b.metadata.labelsOrNone.get? clusterLabel = some c.name := by
  simp [recordsLabelled]

/-- What is listed of a job of a cluster carries the label of the cluster, whatever the job is called. -/
theorem mem_recordsLabelled_of_select {b : Backup} {job : String} (hcluster : ',' ∉ c.name.toList)
    (h : b ∈ s.backups.select ns (recordLabels c.name job).selector) : b ∈ recordsLabelled ns c s.backups := by
  obtain ⟨hmem, hselected⟩ := List.mem_filter.1 h
  rw [Bool.and_eq_true, decide_eq_true_eq, selector_recordLabels] at hselected
  have hkey : ',' ∉ clusterLabel.toList ∧ '=' ∉ clusterLabel.toList := by decide +kernel
  exact mem_recordsLabelled.2 ⟨hmem, hselected.1, Selector.get?_of_accepts hkey.1 hkey.2 hcluster hselected.2⟩

/-- For a schedule of a cluster none but its own records are asked to be deleted. -/
theorem Pruned.deletes_own {declared : String × Schedule} (h : Pruned ns c.name declared es) (hs : s.Serves es t)
    (hnamed : UniquelyNamed ns s.backups) (hcluster : ',' ∉ c.name.toList) (ns' name : String)
    (hmem : .deleteBackup ns' name ∈ calls es) :
    ns' = ns ∧ ∃ b ∈ s.backups, Objects.namespaceOf b = ns ∧
      decide (b.metadata.labelsOrNone.get? clusterLabel = some c.name) = true ∧ b.name = name := by
  cases h with
  | kept | unlisted => simp at hmem
  | @listed records rest keeps deletes =>
    obtain rfl : records = s.backups.select ns (recordLabels c.name declared.1).selector := (Store.serves_ok.1 hs).1
    have hmem' : .deleteBackup ns' name ∈ calls rest := by simpa using hmem
    rw [deletes] at hmem'
    obtain ⟨_, hexpired, hcall⟩ := List.mem_map.1 hmem'
    cases hcall
    have hsub : (s.backups.select ns (recordLabels c.name declared.1).selector).Sublist
        (s.backups.filter fun b ↦ Objects.namespaceOf b = ns) :=
      List.monotone_filter_right s.backups fun b hb ↦ (Bool.and_eq_true_iff.1 hb).1
    obtain ⟨b, hb, hname, -⟩ := (Backup.mem_expired_iff (hnamed.2.sublist (hsub.map _))).1 hexpired
    obtain ⟨hb, hns, hlabel⟩ := mem_recordsLabelled.1
      (mem_recordsLabelled_of_select hcluster (List.mem_of_mem_filter hb))
    exact ⟨rfl, b, hb, hns, decide_eq_true hlabel, hname⟩

section Records

variable {m m' : Registry} (hcluster : ',' ∉ c.name.toList) (hne : other.name ≠ c.name)

include hcluster hne

/-- Looking after the records of some schedules of a cluster leaves those of another one alone. -/
theorem runs_pruneEntries_beside {entries : List (String × Schedule)} {r : Except Failure (List Nat)}
    (h : (entries.mapM (pruneDeclared ns c.name)).Runs m es r m') (hs : s.Serves es t)
    (hnamed : UniquelyNamed ns s.backups) :
    recordsLabelled ns other t.backups = recordsLabelled ns other s.backups := by
  induction entries generalizing m s es r with
  | nil =>
    obtain ⟨rfl, -, -⟩ := runs_mapM_nil.1 h
    obtain rfl : t = s := hs
    rfl
  | cons first entries ih =>
    have hfirst {es : List Exchange} {r : Except Failure Nat} {m' : Registry} {u : Store}
        (h : (pruneDeclared ns c.name first).Runs m es r m') (hs : s.Serves es u) :
        recordsLabelled ns other u.backups = recordsLabelled ns other s.backups ∧ UniquelyNamed ns u.backups := by
      have hdeletes := (runs_pruneDeclared h).2.1.deletes_own hs hnamed hcluster
      constructor
      · refine filter_backups_of_deletes hs hnamed (fun b hb ↦ ?_) hdeletes
        rw [of_decide_eq_true hb]
        simp [Ne.symm hne]
      · rw [hs.backups_eq fun ns' name hmem ↦ (hdeletes ns' name hmem).1]
        exact hnamed.sublist List.filter_sublist
    rcases runs_mapM_cons.1 h with ⟨es₁, es₂, count, m₁, r₂, rfl, hprune, hrest, -⟩ | ⟨f, rfl, hprune⟩
    · obtain ⟨u, hs₁, hs₂⟩ := Store.serves_append.1 hs
      obtain ⟨hrecords, hnamed'⟩ := hfirst hprune hs₁
      exact (ih hrest hs₂ hnamed').trans hrecords
    · exact (hfirst hprune hs).1

theorem runs_pruneAll_beside {changes : List JobChange} {undeclared : List String} {r : Except Failure ScheduleOutcome}
    (h : (pruneAll ns c changes undeclared).Runs m es r m') (hs : s.Serves es t) (hnamed : UniquelyNamed ns s.backups) :
    recordsLabelled ns other t.backups = recordsLabelled ns other s.backups := by
  rcases runs_bind.1 h with ⟨es₁, es₂, counts, m₁, rfl, hprune, hmeasure⟩ | ⟨f, rfl, hprune⟩
  · obtain ⟨u, hs₁, hs₂⟩ := Store.serves_append.1 hs
    rw [← runs_pruneEntries_beside hcluster hne hprune hs₁ hnamed]
    by_cases hpruned : 0 < total counts
    · simp only [hpruned, if_true] at hmeasure
      obtain ⟨reply, rest, rfl, hend⟩ := runs_ask_bind.1 hmeasure
      obtain ⟨rfl, -, -⟩ := runs_pure.1 hend
      obtain ⟨v, hv, hs₂⟩ := hs₂
      obtain rfl : t = v := hs₂
      obtain rfl : t = u := hv
      rfl
    · simp only [hpruned, if_false] at hmeasure
      obtain ⟨rfl, -, -⟩ := runs_pure.1 hmeasure
      obtain rfl : t = u := hs₂
      rfl
  · exact runs_pruneEntries_beside hcluster hne hprune hs hnamed

end Records

/-- A cluster that has no job in the place of those that another one makes has none but those apart from them. -/
theorem labelled_eq_apartFrom (h : ∀ schedule ∈ schedulesOf c, (planOf c schedule).isSome →
    Free ns other jobs (jobName c.name schedule.name)) : labelled ns other jobs = apartFrom ns c other jobs := by
  refine (List.filter_eq_self.2 fun job hjob ↦ ?_).symm
  rw [Bool.not_eq_true', Bool.eq_false_iff]
  intro hmakes
  obtain ⟨schedule, hschedule, hplan, hname⟩ := makes_iff.1 hmakes
  exact h schedule hschedule hplan job hjob hname.symm

/-- Whatever it is refused, a pass of one cluster leaves the records of another one alone, and its jobs apart from those
that it makes. -/
theorem reconcile_beside {r : Except Failure ScheduleOutcome}
    (h : (reconcile settings c).Runs registry es r registry') (hs : s.Serves es t) (hns : c.metadata.ns? = some ns)
    (hcluster : ',' ∉ c.name.toList) (hne : other.name ≠ c.name) (hnamed : Objects.Named s.cronJobs)
    (hdistinct : Objects.Distinct s.cronJobs) (hrecords : UniquelyNamed ns s.backups) : Beside ns c other s t r := by
  have halone {es : List Exchange} {r : Except Failure (List JobChange × List String)} {registry' : Registry}
      {u : Store} (h : (alignJobs settings ns c).Runs registry es r registry') (hs : s.Serves es u) :
      u.backups = s.backups := hs.frame Store.backups fun call hcall v ↦ by
    rw [perform_jobOperation (asks_alignJobs_of_operation (fun _ h ↦ h) _ _ _ _ h call hcall)]
  rw [reconcile_eq hns] at h
  rcases runs_bind.1 h with ⟨es₁, es₂, report, registry₁, rfl, halign, hprune⟩ | ⟨f, rfl, halign⟩
  · obtain ⟨u, hs₁, hs₂⟩ := Store.serves_append.1 hs
    obtain ⟨hleaves, hfree⟩ := runs_alignJobs_beside hns hne halign hs₁ hcluster hnamed hdistinct
    have hbackups := halone halign hs₁
    have hcronJobs := cronJobs_of_pruneAll hprune hs₂
    constructor
    case records =>
      rw [runs_pruneAll_beside hcluster hne hprune hs₂ (hbackups.symm ▸ hrecords), hbackups]
    case apart => rw [hcronJobs, hleaves.apart]
    case sublist =>
      rw [hcronJobs]
      exact hleaves.sublist
    case taken =>
      intro _ _
      rw [hcronJobs, labelled_eq_apartFrom (hfree report rfl), hleaves.apart]
  · obtain ⟨hleaves, -⟩ := runs_alignJobs_beside hns hne halign hs hcluster hnamed hdistinct
    refine ⟨congrArg _ (halone halign hs), hleaves.apart, hleaves.sublist, ?_⟩
    rintro _ ⟨⟩

theorem apartFrom_eq_self : apartFrom ns c other jobs = labelled ns other jobs ↔
    ∀ job ∈ labelled ns other jobs, makes c (Objects.nameOf job) = false := by
  rw [apartFrom, List.filter_eq_self]
  simp only [Bool.not_eq_true']

namespace Beside

variable {r : Except Failure ScheduleOutcome}

/-- A cluster is spared if no job of it is in the place of one that the other makes. -/
theorem spared (h : Beside ns c other s t r)
    (hapart : ∀ job ∈ labelled ns other s.cronJobs, makes c (Objects.nameOf job) = false) : Spared ns other s t := by
  refine ⟨h.sublist.antisymm ?_, h.records⟩
  rw [← apartFrom_eq_self.2 hapart, ← h.apart]
  exact List.filter_sublist

/-- By a pass that ends well it is spared only then. -/
theorem makes_eq_false {outcome : ScheduleOutcome} (h : Beside ns c other s t (.ok outcome))
    (hspared : Spared ns other s t) :
    ∀ job ∈ labelled ns other s.cronJobs, makes c (Objects.nameOf job) = false := by
  rw [← apartFrom_eq_self, ← h.taken outcome rfl, hspared.jobs]

end Beside

/-- Whatever it is refused, a pass over the schedules of one cluster spares all records of another one, and its jobs too
if none of them is in the place of one that the first makes. A pass that ends well spares them only then. -/
theorem reconcile_spares_iff {r : Except Failure ScheduleOutcome}
    (h : (reconcile settings c).Runs registry es r registry') (hs : s.Serves es t) (hns : c.metadata.ns? = some ns)
    (hcluster : ',' ∉ c.name.toList) (hne : other.name ≠ c.name) (hnamed : Objects.Named s.cronJobs)
    (hdistinct : Objects.Distinct s.cronJobs) (hrecords : UniquelyNamed ns s.backups) :
    Beside ns c other s t r ∧
      ((∀ job ∈ labelled ns other s.cronJobs, makes c (Objects.nameOf job) = false) → Spared ns other s t) ∧
      ∀ outcome, r = .ok outcome →
        (Spared ns other s t ↔ ∀ job ∈ labelled ns other s.cronJobs, makes c (Objects.nameOf job) = false) := by
  have hbeside := reconcile_beside h hs hns hcluster hne hnamed hdistinct hrecords
  refine ⟨hbeside, hbeside.spared, fun outcome hr ↦ ⟨?_, hbeside.spared⟩⟩
  subst hr
  exact hbeside.makes_eq_false

/-- A database with two backups, which is called like a backup of another one. -/
private def hot : Cluster where
  metadata := { ObjectMeta.empty with name := some "db-backup-hot", ns? := some "prod" }
  spec := ⟨⟨1, "image", true, ⟨none, "1Gi"⟩⟩, none, none, false, some ⟨"image", .ofList [("disk", .filesystem "claim")],
    [⟨"noon", "0 12 * * *", 1, "disk"⟩, ⟨"night", "0 0 * * *", 1, "disk"⟩]⟩⟩
  status := none

/-- The other database, with a backup that is called like one of the first. -/
private def cold : Cluster where
  metadata := { ObjectMeta.empty with name := some "db", ns? := some "prod" }
  spec := ⟨⟨1, "image", true, ⟨none, "1Gi"⟩⟩, none, none, false, some ⟨"image", .ofList [("disk", .filesystem "claim")],
    [⟨"hot-backup-night", "0 3 * * *", 1, "disk"⟩]⟩⟩
  status := none

/-- What becomes of a pass for a cluster at a server that refuses nothing, beside a clock that stands still. -/
private def calmEnd (c : Cluster) (s : Store) : (Except Failure ScheduleOutcome × Registry) × Store :=
  (reconcile .standard c).runIn (Store.surroundings Store.standstill) .empty s

private theorem runs_calm (c : Cluster) (s : Store) :
    ∃ es, (reconcile .standard c).Runs .empty es (calmEnd c s).1.1 (calmEnd c s).1.2 ∧ s.Serves es (calmEnd c s).2 :=
  ⟨_, runs_courseIn .., Store.serves_course _ ((reconcile .standard c).run.run .empty) s⟩

/-- What a server holds after a pass for the one database. -/
private def hotStore : Store := (calmEnd hot .empty).2

/-- What it holds after a pass for the other one then. -/
private def coldStore : Store := (calmEnd cold hotStore).2

private theorem calm_ends : (calmEnd hot .empty).1.1 = .ok ⟨2, 0, 0, 0⟩ ∧
    (calmEnd cold hotStore).1.1 = .ok ⟨0, 1, 0, 0⟩ ∧
    (labelled "prod" hot hotStore.cronJobs).map CronJob.name =
      ["db-backup-hot-backup-noon", "db-backup-hot-backup-night"] ∧
    (labelled "prod" hot coldStore.cronJobs).map CronJob.name = ["db-backup-hot-backup-noon"] := by
  decide +kernel

private theorem name_hot_ne : hot.name ≠ cold.name := by decide +kernel

/-- One database has its two jobs made, and a pass for the other one takes one of them away. -/
theorem not_spared_night : ∃ es es' registry registry' s t,
    (reconcile .standard hot).Runs .empty es (.ok ⟨2, 0, 0, 0⟩) registry ∧ Store.empty.Serves es s ∧
      (reconcile .standard cold).Runs .empty es' (.ok ⟨0, 1, 0, 0⟩) registry' ∧ s.Serves es' t ∧
      hot.name ≠ cold.name ∧ ¬Spared "prod" hot s t := by
  obtain ⟨hhot, hcold, hbefore, hafter⟩ := calm_ends
  obtain ⟨es, hrun, hserves⟩ := runs_calm hot .empty
  obtain ⟨es', hrun', hserves'⟩ := runs_calm cold hotStore
  rw [hhot] at hrun
  rw [hcold] at hrun'
  refine ⟨es, es', _, _, hotStore, coldStore, hrun, hserves, hrun', hserves', name_hot_ne, fun hspared ↦ ?_⟩
  rw [hspared.jobs, hbefore] at hafter
  cases hafter

/-- The pass leaves of the jobs of the database the one that it makes none in the place of. -/
theorem reconcile_spares_iff_night : ∃ es registry' t,
    (reconcile .standard cold).Runs .empty es (.ok ⟨0, 1, 0, 0⟩) registry' ∧ hotStore.Serves es t ∧
      Beside "prod" cold hot hotStore t (.ok ⟨0, 1, 0, 0⟩) ∧
      (apartFrom "prod" cold hot hotStore.cronJobs).map CronJob.name = ["db-backup-hot-backup-noon"] := by
  obtain ⟨-, hcold, -, hafter⟩ := calm_ends
  obtain ⟨es, hrun, hserves⟩ := runs_calm cold hotStore
  change hotStore.Serves es coldStore at hserves
  rw [hcold] at hrun
  have hnamed : Objects.Named hotStore.cronJobs := by
    unfold Objects.Named
    decide +kernel
  have hdistinct : Objects.Distinct hotStore.cronJobs := by
    unfold Objects.Distinct
    decide +kernel
  have hrecords : UniquelyNamed "prod" hotStore.backups := by constructor <;> decide +kernel
  obtain ⟨hbeside, -⟩ := reconcile_spares_iff hrun hserves rfl (by decide +kernel) name_hot_ne hnamed hdistinct hrecords
  have hleft := congrArg (List.map CronJob.name) (hbeside.taken _ rfl)
  exact ⟨es, _, coldStore, hrun, hserves, hbeside, hleft.symm.trans hafter⟩

end Schedules

end GaleraOperator
