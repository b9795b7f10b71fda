import GaleraOperator.Proofs.Control.Quiescence
import GaleraOperator.Proofs.Control.Reports
import GaleraOperator.Proofs.Status.Aggregation

/-!
# What a failure does to a pass

A pass takes its steps one after the other until one of them fails, and the error of that step is what the pass fails
with, whatever becomes of telling it. A recovery that does not come about is told only, unless a log cannot be read.
However a pass ends, it keeps what the step over schedules has left in the registry of its cluster, touches nothing that
is remembered of others, and leaves what the stored status tells of tiers, host and generation unless every step went
well.
-/

namespace GaleraOperator

open Pass

/-- Whether an error says that a log cannot be read that a crash has left. -/
def Error.IsCrashLog (e : Error) : Prop := ∃ pod reason, e = .crashLog pod reason

/-- What the steps of a pass came to: what was seen of the cluster, how it was recovered, and how its backups and its
volumes were seen to. A step that was not taken came to nothing. -/
structure StepResults where
  seen : Except Error (StatusUpdate × List PodObservation)
  recovered : Option (Except Error RecoveryOutcome)
  scheduled : Option (Except Error ScheduleOutcome)
  resized : Option (Except Error ResizeOutcome)

namespace StepResults

/-- A step failed with an error. Recovering has only failed if a log cannot be read. -/
def Fails (x : StepResults) (e : Error) : Prop :=
  x.seen = .error e ∨ (x.recovered = some (.error e) ∧ e.IsCrashLog) ∨ x.scheduled = some (.error e) ∨
    x.resized = some (.error e)

/-- What is to be written down after the steps: the error of the one that failed, or else what was seen. To that is
added, as the last message, why a recovery did not come about. -/
inductive Tells (x : StepResults) : StatusUpdate → Prop where
  | failed {e : Error} (fails : x.Fails e) : x.Tells (.failed e.message)
  | seen {o : ClusterObservation} {pods : List PodObservation} {outcome : RecoveryOutcome} (well : ∀ e, ¬x.Fails e)
      (seen : x.seen = .ok (.observed o, pods)) (recovered : x.recovered = some (.ok outcome)) : x.Tells (.observed o)
  | unrecovered {o : ClusterObservation} {pods : List PodObservation} {e : Error} (well : ∀ e, ¬x.Fails e)
      (seen : x.seen = .ok (.observed o, pods)) (recovered : x.recovered = some (.error e)) :
      x.Tells (.observed { o with messages := o.messages ++ [recoveryMessage e] })

variable {e e' : Error} {seen : StatusUpdate × List PodObservation} {recovered : Except Error RecoveryOutcome}

theorem fails_unseen : Fails ⟨.error e, none, none, none⟩ e' ↔ e' = e := by
  simp [Fails, eq_comm]

theorem fails_unreadable (h : e.IsCrashLog) : Fails ⟨.ok seen, some (.error e), none, none⟩ e' ↔ e' = e := by
  simp only [Fails, reduceCtorEq, Option.some.injEq, Except.error.injEq, false_or, or_false]
  constructor
  · rintro ⟨rfl, -⟩
    rfl
  · rintro rfl
    exact ⟨rfl, h⟩

/-- After a recovery that has not failed, it is up to the other steps. -/
theorem fails_iff_of_recovered {scheduled : Option (Except Error ScheduleOutcome)}
    {resized : Option (Except Error ResizeOutcome)} (h : ∀ e, recovered = .error e → ¬e.IsCrashLog) :
    Fails ⟨.ok seen, some recovered, scheduled, resized⟩ e ↔
      scheduled = some (.error e) ∨ resized = some (.error e) := by
  simp only [Fails, reduceCtorEq, Option.some.injEq, false_or]
  refine or_iff_right ?_
  rintro ⟨hrecovered, hlog⟩
  exact h e hrecovered hlog

end StepResults

/-- The steps of a pass, from a registry to the one that they leave. Each is taken if those before it did not fail. -/
inductive StepsTaken (settings : Settings) (c : Cluster) (m : Memory) (held : Registry) :
    StepResults → List Exchange → Registry → Prop where
  | unseen {es : List Exchange} {e : Error} (see : (aggregate c).Runs m es (.error (.error e)) m) :
      StepsTaken settings c m held ⟨.error e, none, none, none⟩ es held
  | unreadable {es₁ es₂ : List Exchange} {seen : StatusUpdate × List PodObservation} {e : Error}
      (see : (aggregate c).Runs m es₁ (.ok seen) m)
      (recover : (Recovery.recover settings c seen.2).Runs m es₂ (.error (.error e)) m) (crashLog : e.IsCrashLog) :
      StepsTaken settings c m held ⟨.ok seen, some (.error e), none, none⟩ (es₁ ++ es₂) held
  | unscheduled {es₁ es₂ es₃ : List Exchange} {seen : StatusUpdate × List PodObservation}
      {recovered : Except Error RecoveryOutcome} {e : Error} {registry : Registry}
      (see : (aggregate c).Runs m es₁ (.ok seen) m)
      (recover : (Recovery.recover settings c seen.2).Runs m es₂ (recovered.mapError .error) m)
      (readable : ∀ e, recovered = .error e → ¬e.IsCrashLog)
      (schedule : (Schedules.reconcile settings c).Runs held es₃ (.error (.error e)) registry) :
      StepsTaken settings c m held ⟨.ok seen, some recovered, some (.error e), none⟩ (es₁ ++ (es₂ ++ es₃)) registry
  | resized {es₁ es₂ es₃ es₄ : List Exchange} {seen : StatusUpdate × List PodObservation}
      {recovered : Except Error RecoveryOutcome} {outcome : ScheduleOutcome} {resized : Except Error ResizeOutcome}
      {registry : Registry}
      (see : (aggregate c).Runs m es₁ (.ok seen) m)
      (recover : (Recovery.recover settings c seen.2).Runs m es₂ (recovered.mapError .error) m)
      (readable : ∀ e, recovered = .error e → ¬e.IsCrashLog)
      (schedule : (Schedules.reconcile settings c).Runs held es₃ (.ok outcome) registry)
      (resize : (Volume.reconcile settings c).Runs m es₄ (resized.mapError .error) m) :
      StepsTaken settings c m held ⟨.ok seen, some recovered, some (.ok outcome), some resized⟩
        (es₁ ++ (es₂ ++ (es₃ ++ es₄))) registry

variable {settings : Settings} {ns : String} {c : Cluster} {m m' : Memory} {es : List Exchange} {s t : Store}
  {x : StepResults} {held registry : Registry}

section Steps

/-- Recovering a cluster ends well, or it is told why it did not come about, or a log cannot be read. -/
theorem runs_recoverStep {pods : List PodObservation} {update : StatusUpdate} {r : Except Failure StatusUpdate}
    (h : (recoverStep settings c pods update).Runs m es r m') (hcalm : ∀ o, r ≠ .error (.overflow o)) :
    m' = m ∧ ∃ recovered : Except Error RecoveryOutcome,
      (Recovery.recover settings c pods).Runs m es (recovered.mapError .error) m ∧
        ((∃ e, recovered = .error e ∧ e.IsCrashLog ∧ r = .error (.error e)) ∨
          (∀ e, recovered = .error e → ¬e.IsCrashLog) ∧
            ((∃ outcome, recovered = .ok outcome ∧ r = .ok update) ∨
              ∃ e, recovered = .error e ∧ r = .ok (update.addMessage (recoveryMessage e)))) := by
  rcases runs_bind.1 h with ⟨es₁, es₂, recovered, m₁, rfl, hattempt, hrest⟩ | ⟨f, rfl, hattempt⟩
  · rcases runs_attempt.1 hattempt with ⟨outcome, hr, hrun⟩ | ⟨e, hr, hrun⟩ | ⟨o, hr, -⟩ <;> cases hr
    · obtain ⟨rfl, -⟩ := (looks_recover pods).memoryless _ _ _ _ hrun
      obtain ⟨rfl, rfl, rfl⟩ := runs_pure.1 hrest
      rw [List.append_nil]
      exact ⟨rfl, .ok outcome, hrun, .inr ⟨nofun, .inl ⟨outcome, rfl, rfl⟩⟩⟩
    · obtain ⟨rfl, -⟩ := (looks_recover pods).memoryless _ _ _ _ hrun
      by_cases hlog : e.IsCrashLog
      · obtain ⟨pod, reason, rfl⟩ := hlog
        obtain ⟨rfl, rfl, rfl⟩ := runs_fail.1 hrest
        rw [List.append_nil]
        exact ⟨rfl, .error _, hrun, .inl ⟨_, rfl, ⟨pod, reason, rfl⟩, rfl⟩⟩
      · have htold : (pure (update.addMessage (recoveryMessage e)) : Pass Memory StatusUpdate).Runs m₁ es₂ r m' := by
          cases e <;> first | exact hrest | exact absurd ⟨_, _, rfl⟩ hlog
        obtain ⟨rfl, rfl, rfl⟩ := runs_pure.1 htold
        rw [List.append_nil]
        refine ⟨rfl, .error e, hrun, .inr ⟨?_, .inr ⟨e, rfl, rfl⟩⟩⟩
        intro e' he
        cases he
        exact hlog
  · rcases runs_attempt.1 hattempt with ⟨_, hr, -⟩ | ⟨_, hr, -⟩ | ⟨o, hr, -⟩ <;> cases hr
    exact absurd rfl (hcalm o)

/-- The steps over schedules and over volumes, the second of which is taken if the first ends well. -/
theorem runs_lastSteps {key : String} {update : StatusUpdate} {r : Except Failure StatusUpdate}
    (h : (do
      let _ ← scheduleStep settings key c
      let _ ← Volume.reconcile settings c
      return update : Pass Memory StatusUpdate).Runs m es r m')
    (hcalm : ∀ o, r ≠ .error (.overflow o)) :
    ∃ registry, m' = m.withRegistry key registry ∧
      ((∃ e, r = .error (.error e) ∧
          (Schedules.reconcile settings c).Runs (m.registry key) es (.error (.error e)) registry) ∨
        ∃ es₁ es₂ outcome, ∃ resized : Except Error ResizeOutcome, es = es₁ ++ es₂ ∧
          (Schedules.reconcile settings c).Runs (m.registry key) es₁ (.ok outcome) registry ∧
          (Volume.reconcile settings c).Runs m es₂ (resized.mapError .error) m ∧
          r = (resized.map fun _ ↦ update).mapError .error) := by
  rcases runs_bind.1 h with ⟨es₁, _, outcome, m₁, rfl, hschedules, hafter⟩ | ⟨e | o, rfl, hschedules⟩
  · obtain ⟨registry, hschedule, rfl⟩ := runs_focus.1 hschedules
    refine ⟨registry, ?_⟩
    rcases runs_bind.1 hafter with ⟨es₂, _, resize, m₂, rfl, hvolumes, hend⟩ | ⟨e | o, rfl, hvolumes⟩
    · obtain ⟨rfl, hresize⟩ := Volume.memoryless_reconcile _ _ _ _ hvolumes
      obtain ⟨rfl, rfl, rfl⟩ := runs_pure.1 hend
      rw [List.append_nil]
      exact ⟨rfl, .inr ⟨es₁, es₂, outcome, .ok resize, rfl, hschedule, hresize m, rfl⟩⟩
    · obtain ⟨rfl, hresize⟩ := Volume.memoryless_reconcile _ _ _ _ hvolumes
      exact ⟨rfl, .inr ⟨es₁, _, outcome, .error e, rfl, hschedule, hresize m, rfl⟩⟩
    · exact absurd rfl (hcalm o)
  · obtain ⟨registry, hschedule, rfl⟩ := runs_focus.1 hschedules
    exact ⟨registry, rfl, .inl ⟨e, rfl, hschedule⟩⟩
  · exact absurd rfl (hcalm o)

/-- What the steps of a pass left in memory. -/
def AfterSteps (key : String) (registry : Registry) (m m' : Memory) : Prop :=
  (m' = m ∧ registry = m.registry key) ∨ m' = m.withRegistry key registry

/-- The steps of a pass fail with the error of the one that did, or come to what is to be told. -/
def EndsAs (x : StepResults) (r : Except Failure StatusUpdate) : Prop :=
  (∃ e, r = .error (.error e) ∧ ∀ e', x.Fails e' ↔ e' = e) ∨
    ∃ update, r = .ok update ∧ (∀ e, ¬x.Fails e) ∧ x.Tells update

/-- The steps of a pass, in every run in which it does not end for want of a result of arithmetic. -/
theorem stepsTaken_of_runs {key : String} {r : Except Failure StatusUpdate}
    (h : (runSteps settings key c).Runs m es r m') (hns : c.metadata.ns? = some ns)
    (hcalm : ∀ o, r ≠ .error (.overflow o)) :
    ∃ x registry, StepsTaken settings c m (m.registry key) x es registry ∧ AfterSteps key registry m m' ∧
      EndsAs x r := by
  rcases runs_bind.1 h with ⟨es₁, _, seen, m₁, rfl, hsee, hrest⟩ | ⟨e | o, rfl, hsee⟩
  · obtain ⟨rfl, time, answers, -, hseen⟩ := (runs_aggregate_ok hns).1 hsee
    rcases runs_bind.1 hrest with ⟨es₂, _, update, m₂, rfl, hrecover, hlast⟩ | ⟨e | o, rfl, hrecover⟩
    · obtain ⟨rfl, recovered, hrecovered, ⟨_, _, _, hr⟩ | ⟨hreadable, htold⟩⟩ := runs_recoverStep hrecover nofun
      · cases hr
      obtain ⟨registry, hm, ⟨e, rfl, hschedule⟩ | ⟨es₃, es₄, outcome, resized, rfl, hschedule, hresize, rfl⟩⟩ :=
        runs_lastSteps hlast hcalm
      · refine ⟨_, registry, .unscheduled hsee hrecovered hreadable hschedule, .inr hm, .inl ⟨e, rfl, fun e' ↦ ?_⟩⟩
        rw [StepResults.fails_iff_of_recovered hreadable]
        simp [eq_comm]
      · refine ⟨_, registry, .resized hsee hrecovered hreadable hschedule hresize, .inr hm, ?_⟩
        rcases resized with e | resize
        · refine .inl ⟨e, rfl, fun e' ↦ ?_⟩
          rw [StepResults.fails_iff_of_recovered hreadable]
          simp [eq_comm]
        · have hwell (e : Error) :
              ¬StepResults.Fails ⟨.ok seen, some recovered, some (.ok outcome), some (.ok resize)⟩ e := by
            rw [StepResults.fails_iff_of_recovered hreadable]
            simp
          refine .inr ⟨update, rfl, hwell, ?_⟩
          rcases htold with ⟨recovery, rfl, hr⟩ | ⟨e, rfl, hr⟩ <;> cases hr <;> rw [hseen] at hwell ⊢
          · exact .seen hwell rfl rfl
          · exact .unrecovered hwell rfl rfl
    · obtain ⟨rfl, recovered, hrecovered, ⟨_, rfl, hlog, hr⟩ | ⟨-, ⟨_, _, hr⟩ | ⟨_, _, hr⟩⟩⟩ :=
        runs_recoverStep hrecover hcalm <;> cases hr
      refine ⟨_, _, .unreadable hsee hrecovered hlog, .inl ⟨rfl, rfl⟩, .inl ⟨e, rfl, fun e' ↦ ?_⟩⟩
      exact StepResults.fails_unreadable hlog
    · exact absurd rfl (hcalm o)
  · obtain ⟨rfl, -⟩ := looks_aggregate.memoryless _ _ _ _ hsee
    exact ⟨_, _, .unseen hsee, .inl ⟨rfl, rfl⟩, .inl ⟨e, rfl, fun e' ↦ StepResults.fails_unseen⟩⟩
  · exact absurd rfl (hcalm o)

/-- Whatever comes of a pass, all it writes to clusters is something else than their status. -/
def WritesNoStatus {α : Type} (settings : Settings) (p : Pass Memory α) : Prop :=
  ∀ m es r m', p.Runs m es r m' → Woven Memory settings ClusterWrite.SparesStatus es

namespace WritesNoStatus

variable {α β : Type} {p : Pass Memory α}

theorem of_looks (hp : Looks p) : WritesNoStatus settings p := by
  intro m es r m' h
  refine .of_calls fun call hcall ↦ ?_
  have hobserves := hp.observes _ _ _ _ h call hcall
  cases call <;> first | rfl | cases hobserves

theorem bind {f : α → Pass Memory β} (hp : WritesNoStatus settings p) (hf : ∀ a, WritesNoStatus settings (f a)) :
    WritesNoStatus settings (p >>= f) := by
  intro m es r m' h
  rcases runs_bind.1 h with ⟨es₁, es₂, a, m₁, rfl, hfirst, hrest⟩ | ⟨f, rfl, hfirst⟩
  · exact (hp _ _ _ _ hfirst).append (hf a _ _ _ _ hrest)
  · exact hp _ _ _ _ hfirst

theorem scheduleStep (key : String) : WritesNoStatus settings (scheduleStep settings key c) := by
  intro m es r m' h
  obtain ⟨registry, hrun, -⟩ := runs_focus.1 h
  refine .of_calls fun call hcall ↦ ?_
  have hoperation := Schedules.asks_reconcile (fun _ h ↦ h) _ _ _ _ hrun call hcall
  cases call <;> first | rfl | simp [Call.operation, Schedules.jobOperations, Schedules.recordOperations] at hoperation

theorem volumes (hns : c.metadata.ns? = some ns) :
    WritesNoStatus settings (Volume.reconcile settings c : Pass Memory ResizeOutcome) := by
  intro m es r m' h
  rcases Volume.course_of_reconcile h hns with ⟨helsewhere, -⟩ | ⟨configured, -, hcourse⟩
  · exact .of_calls helsewhere
  · refine hcourse.woven.mono ?_
    rintro op ((⟨time, rfl⟩ | rfl) | rfl) <;> trivial

/-- The steps of a pass leave the status of clusters to what follows them. -/
theorem runSteps (key : String) (hns : c.metadata.ns? = some ns) :
    WritesNoStatus settings (runSteps settings key c) :=
  bind (of_looks looks_aggregate) fun _ ↦ bind (of_looks (looks_recoverStep _ _)) fun _ ↦ bind (scheduleStep key) fun _ ↦
    bind (volumes hns) fun _ ↦ of_looks (.pure _)

end WritesNoStatus

end Steps

section Remembered

/-- The part of a text before a slash decides where the slash is. -/
private theorem takeWhile_slash {l r : List Char} (h : '/' ∉ l) : (l ++ '/' :: r).takeWhile (· ≠ '/') = l := by
  have hbefore : ∀ x ∈ l, decide (x ≠ '/') = true := by
    intro x hx
    refine decide_eq_true fun hslash ↦ h ?_
    rwa [← hslash]
  rw [List.takeWhile_append_of_pos hbefore]
  simp

/-- Clusters of namespaces without a slash are remembered under keys of their own. -/
theorem clusterKey_inj {ns' name name' : String} (hns : '/' ∉ ns.toList) (hns' : '/' ∉ ns'.toList)
    (h : clusterKey ns' name' = clusterKey ns name) : ns' = ns ∧ name' = name := by
  have hlists : ns'.toList ++ '/' :: name'.toList = ns.toList ++ '/' :: name.toList := by
    simpa [clusterKey] using congrArg String.toList h
  have hspaces : ns'.toList = ns.toList := by
    rw [← takeWhile_slash hns', hlists, takeWhile_slash hns]
  rw [hspaces, List.append_cancel_left_eq, List.cons.injEq] at hlists
  exact ⟨String.toList_inj.1 hspaces, String.toList_inj.1 hlists.2⟩

/-- What a pass over a cluster leaves in memory: the registry of the cluster, which is not lost, and all that is
remembered of others. -/
structure Remembers (ns name : String) (registry : Registry) (m m' : Memory) : Prop where
  registry_eq : m'.registry (clusterKey ns name) = registry
  held : m.registries.contains (clusterKey ns name) → m'.registries.contains (clusterKey ns name)
  others : ∀ key ≠ clusterKey ns name,
    m'.registries.get? key = m.registries.get? key ∧ m'.failures.get? key = m.failures.get? key

/-- That failures are forgotten concerns the cluster only. -/
theorem Remembers.clearFailures {name : String} (h : Remembers ns name registry m m') :
    Remembers ns name registry m (m'.clearFailures (clusterKey ns name)) := by
  refine ⟨h.registry_eq, h.held, fun key hkey ↦ ⟨(h.others key hkey).1, ?_⟩⟩
  rw [← (h.others key hkey).2, Memory.clearFailures, Dict.get?_erase, if_neg hkey]

end Remembered

section Ends

theorem memoryless_writeOnce (update : StatusUpdate) (name : String) :
    Memoryless (update.writeOnce ns name : Pass Memory Unit) := by
  have hfetch : Memoryless (fetchCluster ns name : Pass Memory Cluster) := by
    refine .bind (.call _) fun latest? ↦ ?_
    cases latest? with
    | none => exact .fail _
    | some latest => exact .pure _
  refine hfetch.bind fun latest ↦ .bind (.ask _) fun time ↦ ?_
  split
  · exact .bind (.call _) fun _ ↦ .pure _
  · exact .pure _

theorem memoryless_write (update : StatusUpdate) : Memoryless (update.write settings c : Pass Memory Unit) := by
  unfold StatusUpdate.write
  cases c.metadata.ns? with
  | none => exact .fail _
  | some ns =>
    refine .bind (.attempt (.retryOnConflict _ (memoryless_writeOnce update c.name))) fun attempted ↦ ?_
    cases attempted with
    | ok => exact .pure _
    | error e => cases he : e.isConflict <;> simp only [he] <;> exact .fail _

/-- Counting a pass and showing its pods asks nothing of the server. -/
theorem asks_reportPass (name : String) (update : StatusUpdate) :
    Asks (fun _ ↦ False) (reportPass ns name update : Pass Memory Unit) := by
  have htouch : Asks (fun _ ↦ False) (do ask (.touch (← now).unixSeconds.toNat) : Pass Memory Unit) :=
    .bind (.aside fun _ ↦ rfl) fun _ ↦ .aside fun _ ↦ rfl
  refine .bind (.aside fun _ ↦ rfl) fun _ ↦ ?_
  cases update with
  | failed message => exact htouch
  | observed o =>
    refine .bind (.forM (fun (tier, status?) ↦ ?_) _) fun _ ↦ htouch
    cases status? with
    | none => exact .pure _
    | some status => exact .aside fun _ ↦ rfl

/-- What is written down after the steps of a pass. -/
def updateAfter : Except Error StatusUpdate → StatusUpdate
  | .ok update => update
  | .error e => .failed e.message

/-- How a pass ends after its steps, and after what they came to was written down or not. -/
inductive Ends (settings : Settings) (key : String) (m : Memory) :
    Except Error StatusUpdate → Except Error Unit → Except Failure Requeue → Memory → Prop where
  | failed (e : Error) (written : Except Error Unit) : Ends settings key m (.error e) written (.error (.error e)) m
  | unwritten (update : StatusUpdate) (e : Error) : Ends settings key m (.ok update) (.error e) (.error (.error e)) m
  | well (update : StatusUpdate) :
      Ends settings key m (.ok update) (.ok ()) (.ok (.after settings.interval)) (m.clearFailures key)

/-- What follows the steps of a pass: what they came to is written down, and nothing else is asked of the server. -/
theorem runs_ending {result : Except Error StatusUpdate} {r : Except Failure Requeue}
    (h : (match result with
      | .error e => attempt ((StatusUpdate.failed e.message).write settings c) >>= fun _ ↦ fail e
      | .ok update => conclude settings ns c update : Pass Memory Requeue).Runs m es r m')
    (hcalm : ∀ o, r ≠ .error (.overflow o)) :
    ∃ writing rest, ∃ written : Except Error Unit, es = writing ++ rest ∧ calls rest = [] ∧
      ((updateAfter result).write settings c).Runs m writing (written.mapError .error) m ∧
      Ends settings (clusterKey ns c.name) m result written r m' := by
  cases result with
  | error e =>
    rcases runs_bind.1 h with ⟨writing, rest, written, m₁, rfl, hattempt, hfail⟩ | ⟨f, rfl, hattempt⟩
    · obtain ⟨rfl, rfl, rfl⟩ := runs_fail.1 hfail
      rcases runs_attempt.1 hattempt with ⟨_, hr, hwrite⟩ | ⟨e', hr, hwrite⟩ | ⟨o, hr, -⟩ <;> cases hr <;>
        obtain ⟨rfl, -⟩ := memoryless_write _ _ _ _ _ hwrite
      · exact ⟨writing, [], .ok (), rfl, rfl, hwrite, .failed e _⟩
      · exact ⟨writing, [], .error e', rfl, rfl, hwrite, .failed e _⟩
    · rcases runs_attempt.1 hattempt with ⟨_, hr, -⟩ | ⟨_, hr, -⟩ | ⟨o, hr, -⟩ <;> cases hr
      exact absurd rfl (hcalm o)
  | ok update =>
    rcases runs_bind.1 h with ⟨writing, rest, _, m₁, rfl, hwrite, hafter⟩ | ⟨e | o, rfl, hwrite⟩
    · obtain ⟨rfl, -⟩ := memoryless_write _ _ _ _ _ hwrite
      rcases runs_bind.1 (runs_modify_bind.1 hafter) with ⟨rest, _, _, m₂, rfl, hreport, hend⟩ | ⟨f, rfl, hreport⟩
      · obtain ⟨rfl, rfl, rfl⟩ := runs_pure.1 hend
        obtain ⟨rfl, -⟩ := (looks_reportPass ..).memoryless _ _ _ _ hreport
        refine ⟨writing, _, .ok (), rfl, ?_, hwrite, .well update⟩
        rw [List.append_nil]
        exact List.eq_nil_iff_forall_not_mem.2 (asks_reportPass _ _ _ _ _ _ hreport)
      · cases ok_of_reportPass hreport
    · obtain ⟨rfl, -⟩ := memoryless_write _ _ _ _ _ hwrite
      exact ⟨_, [], .error e, (List.append_nil _).symm, rfl, hwrite, .unwritten update e⟩
    · exact absurd rfl (hcalm o)

end Ends

/-- A cluster with a nightly backup that was well when it was last looked at. -/
private def watched : Cluster where
  metadata := { Kube.ObjectMeta.empty with name := some "db", ns? := some "prod", generation := some 2 }
  spec := ⟨⟨1, "image", true, ⟨none, "1Gi"⟩⟩, none, none, false,
    some ⟨"image", .ofList [("disk", .filesystem "claim")], [⟨"nightly", "0 1 * * *", 7, "disk"⟩]⟩⟩
  status := some { ClusterStatus.initial with
    database := some ⟨1, 1, .ready, ""⟩, state := .ready, host := some "db-pxc.prod", observedGeneration := some 2 }

end GaleraOperator
