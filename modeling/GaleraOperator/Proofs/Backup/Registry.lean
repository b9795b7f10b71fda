import GaleraOperator.Proofs.Backup.JobSteps

/-!
# What the registry spares

A pass that remembers does the same as one that remembers nothing, except for looking at jobs that it knows. The
registry is made by passes that may fail at any call, and jobs may be deleted behind their back; but nobody else makes
jobs or changes them. So whatever the registry remembers of a job is true of it for as long as the job is held, and a
pass asks which jobs are held before it believes the registry.
-/

namespace GaleraOperator

open Kube Pass

/-- Others have done nothing about jobs but delete some. Whatever is not a job may be anything. -/
def Store.Thinned (s t : Store) : Prop := t.cronJobs.Sublist s.cronJobs

/-- A server may give the replies of exchanges, one after the other, and then hold what it holds, while others delete
jobs at any time. -/
def Store.Shares : Store → List Exchange → Store → Prop
  | s, [], t => s.Thinned t
  | s, x :: es, t => ∃ u v, s.Thinned u ∧ u.Answers x v ∧ v.Shares es t

/-- A call that does nothing to jobs but delete some. -/
def Call.Thins (c : Call) : Prop := ∀ s : Store, s.Thinned (s.perform c).2

namespace Store

variable {s t u : Store} {x : Exchange} {es fs : List Exchange}

theorem Thinned.refl (s : Store) : s.Thinned s := List.Sublist.refl _

theorem Thinned.trans (h : s.Thinned t) (h' : t.Thinned u) : s.Thinned u := List.Sublist.trans h' h

/-- Others may also do nothing. -/
theorem Serves.shares (h : s.Serves es t) : s.Shares es t := by
  induction es generalizing s with
  | nil =>
    obtain rfl : t = s := h
    exact .refl t
  | cons x es ih =>
    obtain ⟨u, hanswer, hrest⟩ := h
    exact ⟨s, u, .refl s, hanswer, ih hrest⟩

theorem Shares.split (h : s.Shares (es ++ fs) t) : ∃ u, s.Shares es u ∧ u.Shares fs t := by
  induction es generalizing s with
  | nil => exact ⟨s, .refl s, h⟩
  | cons x es ih =>
    obtain ⟨u, v, hthin, hanswer, hrest⟩ := h
    obtain ⟨w, hfirst, hsecond⟩ := ih hrest
    exact ⟨w, ⟨u, v, hthin, hanswer, hfirst⟩, hsecond⟩

/-- An answer was given by performing the call. -/
theorem Shares.ok {c : Call} {a : c.Answer} (h : s.Shares (⟨.call c, .ok a⟩ :: es) t) :
    ∃ u, s.Thinned u ∧ a = (u.perform c).1 ∧ (u.perform c).2.Shares es t := by
  obtain ⟨u, v, hthin, ⟨_, hr, -⟩ | ⟨hr, rfl⟩, hrest⟩ := h
  · cases hr
  · exact ⟨u, hthin, Except.ok.inj hr, hrest⟩

/-- An error says that the call was refused, which had no effect. -/
theorem Shares.error {c : Call} {e : Error} (h : s.Shares (⟨.call c, .error e⟩ :: es) t) :
    ∃ u, s.Thinned u ∧ u.Shares es t := by
  obtain ⟨u, v, hthin, ⟨_, -, rfl⟩ | ⟨hr, -⟩, hrest⟩ := h
  · exact ⟨_, hthin, hrest⟩
  · cases hr

theorem Answers.thinned (h : s.Answers x t) (hx : ∀ c ∈ x.call?, c.Thins) : s.Thinned t := by
  obtain ⟨e, reply⟩ := x
  cases e with
  | call c =>
    rcases h with ⟨_, -, rfl⟩ | ⟨-, rfl⟩
    · exact .refl t
    · exact hx c rfl s
  | now | wait | measure | touch =>
    obtain rfl : t = s := h
    exact .refl t

/-- Where no call does more than delete jobs, some jobs were deleted at most. -/
theorem Shares.thinned (h : s.Shares es t) (hcalls : ∀ c ∈ calls es, c.Thins) : s.Thinned t := by
  induction es generalizing s with
  | nil => exact h
  | cons x es ih =>
    obtain ⟨u, v, hthin, hanswer, hrest⟩ := h
    rw [calls_cons] at hcalls
    have hfirst := hanswer.thinned fun c hc ↦ hcalls c (List.mem_append_left _ (Option.mem_toList.2 hc))
    have hsecond := ih hrest fun c hc ↦ hcalls c (List.mem_append_right _ hc)
    exact (hthin.trans hfirst).trans hsecond

end Store

theorem Call.thins_of_recordOperation {c : Call} (h : c.operation ∈ Schedules.recordOperations) : c.Thins := by
  intro s
  cases c <;> first | exact List.Sublist.refl _ | simp [Call.operation, Schedules.recordOperations] at h

theorem Call.thins_deleteCronJob (ns name : String) : (Call.deleteCronJob ns name).Thins := fun _ ↦ List.filter_sublist

theorem Call.thins_of_not_isWrite {c : Call} (h : c.isWrite = false) : c.Thins := by
  intro s
  rw [Store.perform_of_not_isWrite s h]
  exact .refl s

namespace Schedules

variable {α β : Type} {settings : Settings} {account : Option String} {ns job : String} {c₀ c : Cluster}
  {es es' : List Exchange} {s t t' : Store} {registry registry' registry'' : Registry}
  {jobs jobs' jobs'' : Objects CronJob} {schedule : Schedule} {desired : CronJob} {backup : BackupSpec}

/-- A cluster is an edit of another one: it has its namespace and its name. -/
structure IsEdit (c₀ c : Cluster) : Prop where
  ns : c.metadata.ns? = c₀.metadata.ns?
  name : c.name = c₀.name

/-- What the registry remembers of a job is true of it if it is held. -/
structure Coherent (c : Cluster) (registry : Registry) (jobs : Objects CronJob) : Prop where
  named : Objects.Named jobs
  distinct : Objects.Distinct jobs
  fits : ∀ job plan, registry.get? job = some plan → ∀ stored ∈ jobs,
    Objects.isAt (Objects.namespaceOf c) job stored = true →
      Backup.upToDate stored (Backup.cronJob c plan none) = true

namespace Coherent

theorem empty (hnamed : Objects.Named jobs) (hdistinct : Objects.Distinct jobs) : Coherent c .empty jobs := by
  refine ⟨hnamed, hdistinct, ?_⟩
  rintro job plan ⟨⟩

/-- Jobs may be deleted. -/
theorem sublist (h : Coherent c registry jobs) (hsub : jobs'.Sublist jobs) : Coherent c registry jobs' :=
  ⟨h.named.sublist hsub, h.distinct.sublist hsub, fun job plan hknown stored hmem ↦
    h.fits job plan hknown stored (hsub.subset hmem)⟩

/-- The registry may forget. -/
theorem retain (h : Coherent c registry jobs) (keep : String → Bool) : Coherent c (registry.retain keep) jobs := by
  refine ⟨h.named, h.distinct, fun job plan hknown ↦ h.fits job plan ?_⟩
  rw [Dict.get?_retain] at hknown
  split at hknown
  · exact hknown
  · cases hknown

/-- Of the jobs that are listed all that is remembered is true. -/
theorem believable (h : Coherent c₀ registry jobs) (hedit : IsEdit c₀ c) (hns : c.metadata.ns? = some ns) :
    Believable ns c (registry.retain (listedJobs ns c jobs).contains) jobs := by
  have hnamespace : Objects.namespaceOf c₀ = ns := by
    change c₀.metadata.ns?.getD "" = ns
    rw [← hedit.ns, hns]
    rfl
  intro job plan hknown
  rw [Dict.get?_retain] at hknown
  split at hknown
  · next hlisted =>
    obtain ⟨stored, hstored, hname⟩ := mem_listedJobs.1 (List.contains_iff_mem.1 hlisted)
    obtain ⟨hmem, hselected⟩ := List.mem_filter.1 hstored
    have hat : Objects.isAt ns job stored = true := by
      rw [Objects.isAt_iff, Objects.nameOf_cronJob (h.named stored hmem)]
      exact ⟨of_decide_eq_true (Bool.and_eq_true_iff.1 hselected).1, hname⟩
    refine ⟨stored, h.distinct.find?_eq_some hmem hat, ?_⟩
    rw [Backup.upToDate_cronJob_congr hedit.ns hedit.name plan none none]
    exact h.fits job plan hknown stored hmem (by rwa [hnamespace])
  · cases hknown

end Coherent

/-- After a job was brought in line, what is held in its place needs no update, and everything else was held before. -/
structure JobSettled (ns : String) (desired : CronJob) (jobs jobs' : Objects CronJob) : Prop where
  named : Objects.Named jobs'
  distinct : Objects.Distinct jobs'
  here : ∀ stored ∈ jobs', Objects.isAt ns desired.name stored = true → Backup.upToDate stored desired = true
  elsewhere : ∀ stored ∈ jobs', ¬Objects.isAt ns desired.name stored = true → stored ∈ jobs

namespace JobSettled

/-- Jobs may be deleted afterwards. -/
theorem sublist (h : JobSettled ns desired jobs jobs') (hsub : jobs''.Sublist jobs') :
    JobSettled ns desired jobs jobs'' :=
  ⟨h.named.sublist hsub, h.distinct.sublist hsub, fun stored hmem ↦ h.here stored (hsub.subset hmem),
    fun stored hmem ↦ h.elsewhere stored (hsub.subset hmem)⟩

/-- Jobs may be deleted before. -/
theorem of_sublist (h : JobSettled ns desired jobs' jobs'') (hsub : jobs'.Sublist jobs) :
    JobSettled ns desired jobs jobs'' :=
  ⟨h.named, h.distinct, h.here, fun stored hmem helse ↦ hsub.subset (h.elsewhere stored hmem helse)⟩

theorem kept {stored : CronJob} (hnamed : Objects.Named jobs) (hdistinct : Objects.Distinct jobs)
    (hfound : jobs.find? ns desired.name = some stored) (hsame : Backup.upToDate stored desired = true) :
    JobSettled ns desired jobs jobs := by
  refine ⟨hnamed, hdistinct, fun other hother hat ↦ ?_, fun _ hmem _ ↦ hmem⟩
  rw [hdistinct.find?_eq_some hother hat] at hfound
  cases hfound
  exact hsame

theorem put {new : CronJob} (hnamed : Objects.Named jobs) (hdistinct : Objects.Distinct jobs)
    (hname : new.metadata.name.isSome) (hat : Objects.isAt ns desired.name new = true)
    (hsame : Backup.upToDate new desired = true) : JobSettled ns desired jobs (jobs.put new) := by
  have hnew : Objects.find? ns desired.name (jobs.put new) = some new := by rw [Objects.find?_put, if_pos hat]
  refine ⟨hnamed.put hname, hdistinct.put new, fun other hother hat' ↦ ?_, fun other hother hnot ↦ ?_⟩
  · rw [(hdistinct.put new).find?_eq_some hother hat'] at hnew
    cases hnew
    exact hsame
  · rcases Objects.mem_put hother with rfl | hmem
    · exact absurd hat hnot
    · exact hmem

end JobSettled

/-- However others delete jobs meanwhile, a job that was brought in line is as it should be as long as it is held, and
an attempt that fails has done nothing about jobs. -/
theorem runs_applyJob_shared {plan : BackupPlan} {r : Except Failure JobChange}
    (h : (applyJob ns (Backup.cronJob c plan account)).Runs registry es r registry') (hs : s.Shares es t)
    (hns : c.metadata.ns? = some ns) (hnamed : Objects.Named s.cronJobs) (hdistinct : Objects.Distinct s.cronJobs) :
    registry' = registry ∧ (((∃ f, r = .error f) ∧ s.Thinned t) ∨
      ((∃ change, r = .ok change) ∧ JobSettled ns (Backup.cronJob c plan account) s.cronJobs t.cronJobs)) := by
  have hat (version : Option String) : Objects.isAt ns (Backup.cronJob c plan account).name
      { Backup.cronJob c plan account with metadata.resourceVersion := version } = true := by
    rw [Objects.isAt_iff]
    exact ⟨congrArg (Option.getD · "") hns, rfl⟩
  rcases runs_call_bind.1 h with ⟨e, rfl, rfl, rfl⟩ | ⟨found?, rest, rfl, hrest⟩
  · obtain ⟨u, hthin, hend⟩ := hs.error
    exact ⟨rfl, .inl ⟨⟨_, rfl⟩, hthin.trans hend⟩⟩
  obtain ⟨u, hthin, rfl, hserves⟩ := hs.ok
  have hnamed₁ := hnamed.sublist hthin
  have hdistinct₁ := hdistinct.sublist hthin
  cases hfound : u.cronJobs.find? ns (Backup.cronJob c plan account).name with
  | none =>
    simp only [Store.perform, hfound] at hrest hserves
    rcases runs_call_bind.1 hrest with ⟨e, rfl, rfl, rfl⟩ | ⟨created, last, rfl, hend⟩
    · obtain ⟨v, hthin', hend⟩ := hserves.error
      exact ⟨rfl, .inl ⟨⟨_, rfl⟩, (hthin.trans hthin').trans hend⟩⟩
    · obtain ⟨v, hthin', -, hlast⟩ := hserves.ok
      obtain ⟨rfl, rfl, rfl⟩ := runs_pure.1 hend
      refine ⟨rfl, .inr ⟨⟨_, rfl⟩, JobSettled.sublist (.of_sublist (.put ?_ ?_ rfl (hat none) ?_)
        (hthin.trans hthin')) hlast⟩⟩
      · exact hnamed₁.sublist hthin'
      · exact hdistinct₁.sublist hthin'
      · exact Backup.upToDate_cronJob c plan account none
  | some stored =>
    simp only [Store.perform, hfound] at hrest hserves
    by_cases hsame : Backup.upToDate stored (Backup.cronJob c plan account) = true
    · simp only [hsame, if_true] at hrest
      obtain ⟨rfl, rfl, rfl⟩ := runs_pure.1 hrest
      have hkept := JobSettled.kept hnamed₁ hdistinct₁ hfound hsame
      exact ⟨rfl, .inr ⟨⟨_, rfl⟩, (hkept.of_sublist hthin).sublist hserves⟩⟩
    · simp only [hsame, Bool.false_eq_true, if_false] at hrest
      rcases runs_call_bind.1 hrest with ⟨e, rfl, rfl, rfl⟩ | ⟨replaced, last, rfl, hend⟩
      · obtain ⟨v, hthin', hend⟩ := hserves.error
        exact ⟨rfl, .inl ⟨⟨_, rfl⟩, (hthin.trans hthin').trans hend⟩⟩
      · obtain ⟨v, hthin', -, hlast⟩ := hserves.ok
        obtain ⟨rfl, rfl, rfl⟩ := runs_pure.1 hend
        refine ⟨rfl, .inr ⟨⟨_, rfl⟩, JobSettled.sublist (.of_sublist (.put ?_ ?_ rfl
          (hat stored.metadata.resourceVersion) ?_) (hthin.trans hthin')) hlast⟩⟩
        · exact hnamed₁.sublist hthin'
        · exact hdistinct₁.sublist hthin'
        · exact Backup.upToDate_cronJob c plan account _

/-- However it ends, a pass leaves a registry of which all that it remembers is true, if it found such a one. -/
def Keeps (c₀ : Cluster) (p : Pass Registry α) : Prop :=
  ∀ registry es r registry' (s t : Store), p.Runs registry es r registry' → s.Shares es t →
    Coherent c₀ registry s.cronJobs → Coherent c₀ registry' t.cronJobs

namespace Keeps

variable {p : Pass Registry α} {f : α → Pass Registry β}

/-- Who makes no use of the registry and makes no jobs leaves what is remembered true. -/
theorem of_memoryless (hp : Memoryless p) (hcalls : Asks Call.Thins p) : Keeps c₀ p := by
  intro registry es r registry' s t h hs hcoherent
  obtain ⟨rfl, -⟩ := hp _ _ _ _ h
  exact hcoherent.sublist (hs.thinned (hcalls _ _ _ _ h))

theorem pure (a : α) : Keeps c₀ (pure a : Pass Registry α) := of_memoryless (.pure a) (.pure a)

theorem retain (keep : String → Bool) : Keeps c₀ (remember (·.retain keep)) := by
  intro registry es r registry' s t h hs hcoherent
  obtain ⟨rfl, rfl, rfl⟩ := runs_modify.1 h
  exact (hcoherent.retain keep).sublist hs

theorem bind (hp : Keeps c₀ p) (hf : ∀ a, Keeps c₀ (f a)) : Keeps c₀ (p >>= f) := by
  intro registry es r registry' s t h hs hcoherent
  rcases runs_bind.1 h with ⟨es₁, es₂, a, registry₁, rfl, hfirst, hsecond⟩ | ⟨e, rfl, hfirst⟩
  · obtain ⟨u, hs₁, hs₂⟩ := hs.split
    exact hf a _ _ _ _ _ _ hsecond hs₂ (hp _ _ _ _ _ _ hfirst hs₁ hcoherent)
  · exact hp _ _ _ _ _ _ hfirst hs hcoherent

theorem mapM {f : α → Pass Registry β} (hf : ∀ a, Keeps c₀ (f a)) (xs : List α) : Keeps c₀ (xs.mapM f) := by
  induction xs with
  | nil => exact pure []
  | cons x xs ih =>
    rw [List.mapM_cons]
    exact (hf x).bind fun b ↦ ih.bind fun bs ↦ pure (b :: bs)

end Keeps

/-- A plan is remembered only after the job was found or made as it says. -/
theorem keeps_applySchedule (hedit : IsEdit c₀ c) (hns : c.metadata.ns? = some ns) (backup : BackupSpec)
    (schedule : Schedule) : Keeps c₀ (applySchedule settings ns c backup schedule) := by
  have hnamespace : Objects.namespaceOf c₀ = ns := by
    change c₀.metadata.ns?.getD "" = ns
    rw [← hedit.ns, hns]
    rfl
  intro registry es r registry' s t h hs hcoherent
  unfold applySchedule at h
  cases hplan : plan? backup schedule with
  | none =>
    simp only [hplan] at h
    obtain ⟨rfl, rfl, rfl⟩ := runs_pure.1 h
    exact hcoherent.sublist hs
  | some plan =>
    simp only [hplan] at h
    rw [runs_get_bind] at h
    by_cases hknown : registry.get? (jobName c.name schedule.name) = some plan
    · simp only [hknown, if_true] at h
      obtain ⟨rfl, rfl, rfl⟩ := runs_pure.1 h
      exact hcoherent.sublist hs
    · simp only [hknown, if_false] at h
      rcases runs_bind.1 h with ⟨es₁, es₂, change, registry₁, rfl, happly, hend⟩ | ⟨f, rfl, happly⟩
      · obtain ⟨u, hs₁, hs₂⟩ := hs.split
        rw [remember, runs_modify_bind] at hend
        obtain ⟨rfl, rfl, rfl⟩ := runs_pure.1 hend
        obtain ⟨rfl, ⟨⟨_, hr⟩, -⟩ | ⟨-, hsettled⟩⟩ :=
          runs_applyJob_shared happly hs₁ hns hcoherent.named hcoherent.distinct
        · cases hr
        have hjob := hsettled.sublist hs₂
        refine ⟨hjob.named, hjob.distinct, fun job plan' hknown' stored hmem hat ↦ ?_⟩
        rw [hnamespace] at hat
        have hname : (Backup.cronJob c plan settings.serviceAccount).name = jobName c.name schedule.name :=
          name_cronJob (schedule_of_plan? hplan)
        rw [Dict.get?_insert, ← hname] at hknown'
        split at hknown'
        · next hhere =>
          cases hknown'
          rw [← Backup.upToDate_cronJob_congr hedit.ns hedit.name plan none settings.serviceAccount]
          exact hjob.here stored hmem (by rwa [hhere] at hat)
        · next hne =>
          have helse : ¬Objects.isAt ns (Backup.cronJob c plan settings.serviceAccount).name stored = true :=
            fun hat' ↦ hne ((Objects.isAt_iff.1 hat).2.symm.trans (Objects.isAt_iff.1 hat').2)
          exact hcoherent.fits job plan' hknown' stored (hjob.elsewhere stored hmem helse) (by rwa [hnamespace])
      · obtain ⟨rfl, ⟨-, hthin⟩ | ⟨⟨_, hr⟩, -⟩⟩ :=
          runs_applyJob_shared happly hs hns hcoherent.named hcoherent.distinct
        · exact hcoherent.sublist hthin
        · cases hr

theorem memoryless_listJobs : Memoryless (listJobs (σ := Registry) ns c) := (Memoryless.call _).bind fun _ ↦ .pure _

theorem memoryless_deleteJobs (names : List String) : Memoryless (deleteJobs (σ := Registry) ns names) :=
  .forM (fun _ ↦ .call _) names

theorem memoryless_pruneDeclared (entry : String × Schedule) :
    Memoryless (pruneDeclared (σ := Registry) ns c.name entry) := by
  unfold pruneDeclared
  by_cases hkeep : entry.2.keep = 0
  · simp only [hkeep, if_true]
    exact .pure 0
  · simp only [hkeep, if_false]
    refine Memoryless.bind (.attempt ?_) fun attempted ↦ by cases attempted <;> exact .pure _
    refine (Memoryless.call _).bind fun records ↦ (Memoryless.mapM (fun name ↦ ?_) _).bind fun _ ↦ .pure _
    exact (Memoryless.call _).attempt.bind fun reply ↦ by cases reply <;> exact .pure _

/-- Looking after records makes no use of the registry. -/
theorem memoryless_pruneAll (changes : List JobChange) (undeclared : List String) :
    Memoryless (pruneAll ns c changes undeclared) := by
  refine (Memoryless.mapM memoryless_pruneDeclared _).bind fun counts ↦ ?_
  by_cases hpruned : 0 < total counts
  · simp only [hpruned, if_true]
    exact (Memoryless.ask _).bind fun _ ↦ .pure _
  · simp only [hpruned, if_false]
    exact .pure _

/-- However a pass ends, what is remembered after it is true. -/
theorem keeps_reconcile (hedit : IsEdit c₀ c) : Keeps c₀ (reconcile settings c) := by
  cases hns : c.metadata.ns? with
  | none =>
    simp only [reconcile, hns]
    exact .of_memoryless (.fail _) (.fail _)
  | some ns =>
    rw [reconcile_eq hns]
    refine Keeps.bind ?_ fun report ↦ .of_memoryless (memoryless_pruneAll _ _)
      (asks_pruneAll (fun _ ↦ Call.thins_of_recordOperation) _ _)
    have hlist : Keeps c₀ (listJobs ns c) := .of_memoryless memoryless_listJobs
      ((Asks.call (Call.thins_of_not_isWrite rfl)).bind fun _ ↦ .pure _)
    have hdelete (names : List String) : Keeps c₀ (deleteJobs ns names) := .of_memoryless (memoryless_deleteJobs names)
      (.forM (fun name ↦ .call (Call.thins_deleteCronJob ns name)) names)
    have happly : Keeps c₀ (applyAll settings ns c) := by
      unfold applyAll
      cases c.spec.backup with
      | none => exact .pure []
      | some backup => exact .mapM (keeps_applySchedule hedit hns backup) _
    exact hlist.bind fun listed ↦ (Keeps.retain _).bind fun _ ↦ happly.bind fun changes ↦
      (hdelete _).bind fun _ ↦ (Keeps.retain _).bind fun _ ↦ .pure _

/-- How a registry comes about: it is empty at first, and then passes over the schedules of one cluster are made, in
which calls may be refused, while the owner edits the cluster and others delete jobs. -/
inductive History (c₀ : Cluster) : Registry → Store → Prop where
  | start {s : Store} (named : Objects.Named s.cronJobs) (distinct : Objects.Distinct s.cronJobs) : History c₀ .empty s
  | pass {registry registry' : Registry} {s t : Store} {settings : Settings} {c : Cluster} {es : List Exchange}
      {r : Except Failure ScheduleOutcome} (before : History c₀ registry s) (edit : IsEdit c₀ c)
      (run : (reconcile settings c).Runs registry es r registry') (shares : s.Shares es t) : History c₀ registry' t

/-- What a registry remembers is true of all jobs that are held, however it came about. -/
theorem History.coherent (h : History c₀ registry s) : Coherent c₀ registry s.cronJobs := by
  induction h with
  | start named distinct => exact .empty named distinct
  | pass before edit run shares ih => exact keeps_reconcile edit _ _ _ _ _ _ run shares ih

/-- What becomes of a pass over schedules: what it writes, how it ends and what the server holds after it. -/
structure Work where
  writes : List Call
  result : Except Failure ScheduleOutcome
  left : Store

/-- What a pass does with a registry, at a server that refuses nothing and that it has to itself. -/
def work (settings : Settings) (clock : Instant) (c : Cluster) (registry : Registry) (s : Store) : Work where
  writes := GaleraOperator.writes ((reconcile settings c).courseIn (Store.surroundings clock) registry s)
  result := ((reconcile settings c).runIn (Store.surroundings clock) registry s).1.1
  left := ((reconcile settings c).runIn (Store.surroundings clock) registry s).2

/-- Two passes whose registries remember nothing false of the listed jobs write the same, end the same and leave the
same. -/
theorem runs_reconcile_believed {clock : Instant} {registry₁ registry₁' registry₂ registry₂' : Registry}
    {r r' : Except Failure ScheduleOutcome} (hns : c.metadata.ns? = some ns)
    (h : (reconcile settings c).Runs registry₁ es r registry₁')
    (hgives : Interaction.Gives (Store.surroundings clock) s es t)
    (hbelieved : Believable ns c (registry₁.retain (listedJobs ns c s.cronJobs).contains) s.cronJobs)
    (h' : (reconcile settings c).Runs registry₂ es' r' registry₂')
    (hgives' : Interaction.Gives (Store.surroundings clock) s es' t')
    (hbelieved' : Believable ns c (registry₂.retain (listedJobs ns c s.cronJobs).contains) s.cronJobs) :
    writes es' = writes es ∧ r' = r ∧ t' = t ∧ ∃ outcome, r = .ok outcome := by
  rw [reconcile_eq hns] at h h'
  rcases runs_bind.1 h with ⟨es₁, es₂, report, m, rfl, halign, hprune⟩ | ⟨f, rfl, halign⟩
  · obtain ⟨u, hgives₁, hgives₂⟩ := Interaction.gives_append.1 hgives
    obtain ⟨hs₁, hgranted₁⟩ := Store.granted_of_gives hgives₁
    obtain ⟨hreport, hwrites, hu⟩ := runs_alignJobs_steps halign hs₁ hgranted₁ hns hbelieved
    rcases runs_bind.1 h' with ⟨es₁', es₂', report', m', rfl, halign', hprune'⟩ | ⟨f, rfl, halign'⟩
    · obtain ⟨u', hgives₁', hgives₂'⟩ := Interaction.gives_append.1 hgives'
      obtain ⟨hs₁', hgranted₁'⟩ := Store.granted_of_gives hgives₁'
      obtain ⟨hreport', hwrites', hu'⟩ := runs_alignJobs_steps halign' hs₁' hgranted₁' hns hbelieved'
      obtain rfl : report' = report := Except.ok.inj (hreport'.trans hreport.symm)
      have hsame : u = u' := hu.trans hu'.symm
      have hindistinct : Interaction.Indistinct (Store.surroundings clock) Eq es₂ := by
        rintro x - w _ rfl
        exact ⟨rfl, rfl⟩
      obtain ⟨rfl, rfl, -, rfl⟩ :=
        (memoryless_pruneAll _ _).replay hprune hgives₂ hindistinct hsame hprune' hgives₂'
      rw [writes_append, writes_append, hwrites, hwrites']
      obtain ⟨pruned, hok⟩ := runs_pruneAll_report hprune
      exact ⟨rfl, rfl, rfl, _, hok⟩
    · obtain ⟨hs', hgranted'⟩ := Store.granted_of_gives hgives'
      obtain ⟨hr, -⟩ := runs_alignJobs_steps halign' hs' hgranted' hns hbelieved'
      cases hr
  · obtain ⟨hs, hgranted⟩ := Store.granted_of_gives hgives
    obtain ⟨hr, -⟩ := runs_alignJobs_steps halign hs hgranted hns hbelieved
    cases hr

/-- A pass with the registry of its history does the same as one with an empty registry. -/
theorem work_eq_plain (clock : Instant) (h : History c₀ registry s) (hedit : IsEdit c₀ c) :
    work settings clock c registry s = work settings clock c .empty s ∧
      (c.metadata.ns?.isSome → ∃ outcome, (work settings clock c registry s).result = .ok outcome) := by
  cases hns : c.metadata.ns? with
  | none =>
    refine ⟨?_, nofun⟩
    simp only [work, reconcile, hns]
    rfl
  | some ns =>
    have hplain : Believable ns c (Dict.retain .empty (listedJobs ns c s.cronJobs).contains) s.cronJobs := by
      intro job plan hknown
      rw [Dict.get?_retain] at hknown
      split at hknown <;> cases hknown
    have hrun := runs_courseIn (reconcile settings c) (Store.surroundings clock) registry s
    have hrun' := runs_courseIn (reconcile settings c) (Store.surroundings clock) .empty s
    obtain ⟨hwrites, hresult, hleft, hok⟩ := runs_reconcile_believed hns hrun (Interaction.gives_course _ _ s)
      (h.coherent.believable hedit hns) hrun' (Interaction.gives_course _ _ s) hplain
    refine ⟨?_, fun _ ↦ hok⟩
    simp only [work, Work.mk.injEq]
    exact ⟨hwrites.symm, hresult.symm, hleft.symm⟩

/-- A cluster with two backups a day, one of them at a given time. -/
private def twiceDaily (time : String) : Cluster where
  metadata := { ObjectMeta.empty with name := some "db", ns? := some "prod" }
  spec := ⟨⟨1, "image", true, ⟨none, "1Gi"⟩⟩, none, none, false, some ⟨"image", .ofList [("disk", .filesystem "claim")],
    [⟨"noon", "0 12 * * *", 1, "disk"⟩, ⟨"night", time, 1, "disk"⟩]⟩⟩
  status := none

/-- A server that refuses nothing, beside a clock. -/
private def twiceDailySurroundings : Interaction.Surroundings Store :=
  Store.surroundings Store.standstill

/-- What a pass at a server that holds nothing leaves. -/
private def afterFirst : (Except Failure ScheduleOutcome × Registry) × Store :=
  (reconcile .standard (twiceDaily "0 0 * * *")).runIn twiceDailySurroundings .empty Store.empty

private theorem history_afterFirst : History (twiceDaily "0 0 * * *") afterFirst.1.2 afterFirst.2 := by
  have hstart : History (twiceDaily "0 0 * * *") .empty Store.empty := .start (List.forall_mem_nil _) .nil
  exact .pass hstart ⟨rfl, rfl⟩
    (runs_courseIn (reconcile .standard (twiceDaily "0 0 * * *")) twiceDailySurroundings .empty Store.empty)
    (Store.Serves.shares (Store.serves_course _ _ _))

/-- After the time of one backup was edited, the registry spares the job of the other one. -/
theorem work_eq_plain_twiceDaily : (afterFirst.1.2.get? (jobName "db" "noon")).isSome ∧
    (work .standard ⟨738000, 7200, 5, by decide, by decide⟩ (twiceDaily "0 1 * * *") .empty afterFirst.2).result =
      .ok ⟨0, 1, 0, 0⟩ ∧
    work .standard ⟨738000, 7200, 5, by decide, by decide⟩ (twiceDaily "0 1 * * *") afterFirst.1.2 afterFirst.2 =
      work .standard ⟨738000, 7200, 5, by decide, by decide⟩ (twiceDaily "0 1 * * *") .empty afterFirst.2 := by
  have hedit : IsEdit (twiceDaily "0 0 * * *") (twiceDaily "0 1 * * *") := ⟨rfl, rfl⟩
  exact ⟨by decide +kernel, by decide +kernel, (work_eq_plain _ history_afterFirst hedit).1⟩

end Schedules

end GaleraOperator
