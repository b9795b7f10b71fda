import GaleraOperator.Control.Reconcile
import GaleraOperator.Proofs.Backup.Settled
import GaleraOperator.Proofs.Volume.Quiet

/-!
# The steps of a pass

What a pass sees of pods and how it recovers them is looked up only, and so are the volumes, unless there is something
to resize. So where nothing is resized the steps of a pass change nothing but jobs and records of backups, and go the
same from where they left everything, except that nothing is to be done about schedules any more.
-/

namespace GaleraOperator

open Kube Pass

variable {σ : Type} {settings : Settings} {ns : String} {c : Cluster}

section Looks

theorem looks_passesChecks (tier : Tier) (revision : Option String) (pod : Pod) :
    Looks (tier.passesChecks ns revision pod : Pass σ Bool) := by
  unfold Tier.passesChecks
  split
  · exact .bind (.bind (.call rfl) fun _ ↦ .pure _) fun _ ↦ .pure _
  · exact .pure _

theorem looks_observePod (tier : Tier) (revision : Option String) (pod : Pod) :
    Looks (tier.observePod ns revision pod : Pass σ PodObservation) := by
  unfold Tier.observePod
  split
  · exact .bind (looks_passesChecks ..) fun _ ↦ .pure _
  · exact .bind (.pure _) fun _ ↦ .pure _

theorem looks_observe (tier : Tier) (paused : Bool) : Looks (tier.observe ns c paused : Pass σ TierObservation) :=
  .bind (.call rfl) fun pods ↦ .bind (.call rfl) fun _ ↦ .bind (.mapM (looks_observePod tier _) pods) fun _ ↦ .pure _

theorem looks_observeIfPresent (tier : Tier) : Looks (tier.observeIfPresent ns c : Pass σ _) := by
  unfold Tier.observeIfPresent
  split
  · exact .bind (looks_observe ..) fun _ ↦ .pure _
  · exact .pure _

theorem looks_aggregate : Looks (aggregate c : Pass σ _) := by
  unfold aggregate
  split
  · exact .bind (.aside fun _ ↦ rfl) fun _ ↦ .bind (looks_observe ..) fun _ ↦ .bind (looks_observeIfPresent _) fun _ ↦
      .bind (looks_observeIfPresent _) fun _ ↦ .pure _
  · exact .fail _

theorem looks_signature (ordinal : Nat) : Looks (Recovery.signature ns c ordinal : Pass σ _) := by
  refine .bind (.attempt (.call rfl)) fun reply ↦ ?_
  split
  · split
    · exact .pure _
    · exact .fail _
  · split
    · split
      · exact .pure _
      · exact .fail _
    · exact .pure _

theorem looks_signatures (ordinals : List Nat) : Looks (Recovery.signatures ns c ordinals : Pass σ _) := by
  induction ordinals with
  | nil => exact .pure _
  | cons ordinal rest ih =>
    refine .bind (looks_signature ordinal) fun first ↦ ?_
    split
    · exact .pure _
    · refine .bind ih fun others ↦ ?_
      split
      · exact .pure _
      · exact .pure _

theorem looks_signal (leader : Signature) : Looks (Recovery.signal settings ns c leader : Pass σ _) := by
  refine .bind (.call rfl) fun pod? ↦ ?_
  split
  · exact .pure _
  · refine .bind (.call rfl) fun output ↦ ?_
    split
    · exact .bind (.fail _) fun _ ↦ .bind (.aside fun _ ↦ rfl) fun _ ↦ .bind (.aside fun _ ↦ rfl) fun _ ↦ .pure _
    · exact .bind (.aside fun _ ↦ rfl) fun _ ↦ .bind (.aside fun _ ↦ rfl) fun _ ↦ .pure _

theorem looks_recover (pods : List PodObservation) : Looks (Recovery.recover settings c pods : Pass σ _) := by
  unfold Recovery.recover
  split
  · split
    · exact .pure _
    · dsimp only
      split
      · exact .throw _
      · refine .bind (looks_signatures _) fun found? ↦ ?_
        split
        · exact .pure _
        · split
          · exact .pure _
          · exact looks_signal _
  · exact .fail _

theorem looks_recoverStep (pods : List PodObservation) (update : StatusUpdate) :
    Looks (recoverStep settings c pods update : Pass σ StatusUpdate) := by
  refine .bind (.attempt (looks_recover pods)) fun result ↦ ?_
  split
  · exact .pure _
  · exact .fail _
  · exact .pure _

theorem looks_reportPass (name : String) (update : StatusUpdate) : Looks (reportPass ns name update : Pass σ Unit) := by
  have htouch : Looks (do ask (.touch (← now).unixSeconds.toNat) : Pass σ Unit) :=
    .bind (.aside fun _ ↦ rfl) fun _ ↦ .aside fun _ ↦ rfl
  refine .bind (.aside fun _ ↦ rfl) fun _ ↦ ?_
  dsimp only
  split
  · refine .bind (.forM (fun _ ↦ ?_) _) fun _ ↦ htouch
    split
    · exact .aside fun _ ↦ rfl
    · exact .pure _
  · exact htouch

end Looks

open Undisturbed
open Interaction (Gives gives_append gives_course)

variable {τ : Type} {clock : Instant} {executor : Executor τ} {key : String} {m m' n n' : Memory}
  {es es' : List Exchange} {update : StatusUpdate} {w v w' v' : Store × τ}

@[simp] theorem registry_withRegistry (m : Memory) (key : String) (registry : Registry) :
    (m.withRegistry key registry).registry key = registry := by
  simp [Memory.registry, Memory.withRegistry]

/-- The server holds nothing else than before but jobs and records. -/
def SameButSchedules (s t : Store) : Prop := t = { s with cronJobs := t.cronJobs, backups := t.backups }

/-- The step over schedules asks nothing of containers and changes nothing but jobs and records. -/
theorem scheduleStep_serves {r : Except Failure ScheduleOutcome} (h : (scheduleStep settings key c).Runs m es r m')
    (hgives : Gives (undisturbed clock executor) w es v) :
    w.1.Serves es v.1 ∧ Store.Granted es ∧ SameButSchedules w.1 v.1 ∧ v.2 = w.2 := by
  obtain ⟨registry, hrun, rfl⟩ := runs_focus.1 h
  have hoperations := Schedules.asks_reconcile (fun _ h ↦ h) _ _ _ _ hrun
  obtain ⟨hserves, hgranted, hexecutor⟩ :=
    serves_of_gives hgives fun call hcall ↦ Schedules.not_entersContainer (hoperations call hcall)
  have hrest : { v.1 with cronJobs := [], backups := [] } = { w.1 with cronJobs := [], backups := [] } := by
    refine hserves.frame (fun s ↦ { s with cronJobs := [], backups := [] }) fun call hcall s ↦ ?_
    rcases List.mem_append.1 (hoperations call hcall) with hjob | hrecord
    · rw [Schedules.perform_jobOperation hjob]
    · rw [Schedules.perform_recordOperation hrecord]
  refine ⟨hserves, hgranted, ?_, hexecutor⟩
  exact congrArg (fun s : Store ↦ { s with cronJobs := v.1.cronJobs, backups := v.1.backups }) hrest

/-- The step over schedules ends well and leaves them with nothing more to do. -/
theorem scheduleStep_settles {r : Except Failure ScheduleOutcome} (h : (scheduleStep settings key c).Runs m es r m')
    (hgives : Gives (undisturbed clock executor) w es v) (hns : c.metadata.ns? = some ns) (hnamed : w.1.Named)
    (hjobs : ((Schedules.schedulesOf c).map (jobName c.name ·.name)).Nodup) :
    (∃ outcome, r = .ok outcome) ∧ v.1.Named ∧ Schedules.Settled settings ns c (m'.registry key) v.1 ∧
      (Schedules.Settled settings ns c (m.registry key) w.1 → Reads es) := by
  obtain ⟨hserves, hgranted, -⟩ := scheduleStep_serves h hgives
  obtain ⟨registry, hrun, rfl⟩ := runs_focus.1 h
  rw [registry_withRegistry]
  exact Schedules.settled_of_granted hrun hserves hgranted hnamed hns hjobs

/-- What differs in schedules only stays alike. -/
theorem alike_of_sameButSchedules (halike : Alike w w') (hsame : SameButSchedules w.1 v.1) (hexecutor : v.2 = w.2) :
    Alike v w' := by
  obtain ⟨clusters, jobs, records, rfl⟩ := halike
  refine ⟨clusters, jobs, records, ?_⟩
  rw [hsame, hexecutor]

/-- The steps of a pass that ends well, one after the other. -/
theorem runs_runSteps_ok (h : (runSteps settings key c).Runs m es (.ok update) m') :
    ∃ es₁ es₂ es₃ es₄ seen outcome resize m₁ m₂ m₃, es = es₁ ++ (es₂ ++ (es₃ ++ es₄)) ∧
      (aggregate c).Runs m es₁ (.ok seen) m₁ ∧ (recoverStep settings c seen.2 seen.1).Runs m₁ es₂ (.ok update) m₂ ∧
      (scheduleStep settings key c).Runs m₂ es₃ (.ok outcome) m₃ ∧
      (Volume.reconcile settings c).Runs m₃ es₄ (.ok resize) m' := by
  obtain ⟨es₁, _, seen, m₁, rfl, hsee, hafter⟩ := runs_bind_ok.1 h
  obtain ⟨es₂, _, updated, m₂, rfl, hrecover, hafter⟩ := runs_bind_ok.1 hafter
  obtain ⟨es₃, _, outcome, m₃, rfl, hschedules, hafter⟩ := runs_bind_ok.1 hafter
  obtain ⟨es₄, _, resize, m₄, rfl, hvolumes, hend⟩ := runs_bind_ok.1 hafter
  obtain ⟨rfl, hr, rfl⟩ := runs_pure.1 hend
  cases hr
  rw [List.append_nil]
  exact ⟨es₁, es₂, es₃, es₄, seen, outcome, resize, m₁, m₂, m₃, rfl, hsee, hrecover, hschedules, hvolumes⟩

/-- The steps of a pass that resizes nothing change nothing but jobs and records of backups, and the schedules need
nothing more then. -/
theorem runSteps_rests (h : (runSteps settings key c).Runs m es (.ok update) m')
    (hgives : Gives (undisturbed clock executor) w es v) (hns : c.metadata.ns? = some ns) (hnamed : w.1.Named)
    (hjobs : ((Schedules.schedulesOf c).map (jobName c.name ·.name)).Nodup) (hresize : Volume.NoResize es) :
    v.1.Named ∧ SameButSchedules w.1 v.1 ∧ Schedules.Settled settings ns c (m'.registry key) v.1 := by
  obtain ⟨es₁, es₂, es₃, es₄, seen, outcome, resize, m₁, m₂, m₃, rfl, hsee, hrecover, hschedules, hvolumes⟩ :=
    runs_runSteps_ok h
  obtain ⟨v₁, hgives₁, hgives⟩ := gives_append.1 hgives
  obtain ⟨v₂, hgives₂, hgives⟩ := gives_append.1 hgives
  obtain ⟨v₃, hgives₃, hgives₄⟩ := gives_append.1 hgives
  have hv₁ : v₁.1 = w.1 := store_of_reads hgives₁ (looks_aggregate.reads hsee)
  have hv₂ : v₂.1 = v₁.1 := store_of_reads hgives₂ ((looks_recoverStep ..).reads hrecover)
  have hquiet : Volume.NoResize es₄ := fun call hcall ↦ hresize call (by simp [hcall])
  have hv : v.1 = v₃.1 :=
    store_of_reads hgives₄ (reads_of_observes ((Volume.ended_of_reconcile hvolumes).observes hquiet))
  obtain ⟨rfl, -⟩ := Volume.memoryless_reconcile _ _ _ _ hvolumes
  obtain ⟨-, -, hsame, -⟩ := scheduleStep_serves hschedules hgives₃
  rw [hv₂, hv₁] at hsame
  have hnamed₂ : v₂.1.Named := by rwa [hv₂, hv₁]
  obtain ⟨-, hnamed₃, hsettled, -⟩ := scheduleStep_settles hschedules hgives₃ hns hnamed₂ hjobs
  rw [hv]
  exact ⟨hnamed₃, hsame, hsettled⟩

/-- Where the schedules need nothing more and everything else is as it was, the steps come to the same again and write
nothing. -/
theorem runSteps_again {r : Except Failure StatusUpdate} (h : (runSteps settings key c).Runs m es (.ok update) m')
    (hgives : Gives (undisturbed clock executor) w es v) (hns : c.metadata.ns? = some ns)
    (hjobs : ((Schedules.schedulesOf c).map (jobName c.name ·.name)).Nodup) (hresize : Volume.NoResize es)
    (halike : Alike w w') (hnamed : w'.1.Named) (hsettled : Schedules.Settled settings ns c (n.registry key) w'.1)
    (h' : (runSteps settings key c).Runs n es' r n') (hgives' : Gives (undisturbed clock executor) w' es' v') :
    r = .ok update ∧ Reads es' ∧ v'.1 = w'.1 := by
  obtain ⟨es₁, es₂, es₃, es₄, seen, outcome, resize, m₁, m₂, m₃, rfl, hsee, hrecover, hschedules, hvolumes⟩ :=
    runs_runSteps_ok h
  obtain ⟨v₁, hgives₁, hgives⟩ := gives_append.1 hgives
  obtain ⟨v₂, hgives₂, hgives⟩ := gives_append.1 hgives
  obtain ⟨v₃, hgives₃, hgives₄⟩ := gives_append.1 hgives
  have hobserves₁ := looks_aggregate.observes _ _ _ _ hsee
  obtain ⟨rest, u₁, rfl, halike, hu₁, hafter, hgives'⟩ :=
    looks_aggregate.memoryless.replay_bind hsee hobserves₁ hgives₁ halike h' hgives'
  have hobserves₂ := (looks_recoverStep ..).observes _ _ _ _ hrecover
  obtain ⟨rest, u₂, rfl, halike, hu₂, hafter, hgives'⟩ :=
    (looks_recoverStep ..).memoryless.replay_bind hrecover hobserves₂ hgives₂ halike hafter hgives'
  have hu : u₂.1 = w'.1 := hu₂.trans hu₁
  rw [← hu] at hnamed hsettled
  have hquiet : Volume.NoResize es₄ := fun call hcall ↦ hresize call (by simp [hcall])
  have hobserves₄ := (Volume.ended_of_reconcile hvolumes).observes hquiet
  obtain ⟨-, -, hsame, hexecutor⟩ := scheduleStep_serves hschedules hgives₃
  rcases runs_bind.1 hafter with ⟨es₃', rest, outcome', n₃, rfl, hschedules', hafter⟩ | ⟨f, rfl, hschedules'⟩
  · obtain ⟨u₃, hgives₃', hgives₄'⟩ := gives_append.1 hgives'
    obtain ⟨-, -, -, hreads⟩ := scheduleStep_settles hschedules' hgives₃' hns hnamed hjobs
    obtain ⟨hserves', -, -, hexecutor'⟩ := scheduleStep_serves hschedules' hgives₃'
    have hu₃ : u₃ = u₂ := Prod.ext (hserves'.eq_of_reads (hreads hsettled)) hexecutor'
    subst hu₃
    obtain ⟨rest, u₄, rfl, -, hu₄, hend, hdone⟩ := Volume.memoryless_reconcile.replay_bind hvolumes hobserves₄
      hgives₄ (alike_of_sameButSchedules halike hsame hexecutor) hafter hgives₄'
    obtain ⟨rfl, rfl, rfl⟩ := runs_pure.1 hend
    obtain rfl : v' = u₄ := hdone
    refine ⟨rfl, ?_, hu₄.trans hu⟩
    simp only [reads_append]
    exact ⟨reads_of_observes hobserves₁, reads_of_observes hobserves₂, hreads hsettled, reads_of_observes hobserves₄,
      reads_nil⟩
  · obtain ⟨⟨_, hr⟩, -⟩ := scheduleStep_settles hschedules' hgives' hns hnamed hjobs
    cases hr

end GaleraOperator
