import GaleraOperator.Proofs.Control.Steps
import GaleraOperator.Proofs.Status.Writing

/-!
# Quiescence

The control loop comes to rest. What a pass does is up to what the owner of a cluster asks for, not to the status that
the operator wrote. So the next pass goes as the one before it, but finds the schedules settled and the status up to
date: it writes nothing.
-/

namespace GaleraOperator

open Kube Pass

variable {σ : Type} {settings : Settings} {ns : String} {c : Cluster}

section Demand

variable {u : StatusUpdate} {time : Instant}

theorem metadata_updatedBy : (c.updatedBy u time).metadata = c.metadata := rfl

theorem signatures_updatedBy (ordinals : List Nat) :
    (Recovery.signatures ns (c.updatedBy u time) ordinals : Pass σ _) = Recovery.signatures ns c ordinals := by
  induction ordinals with
  | nil => rfl
  | cons ordinal rest ih =>
    rw [Recovery.signatures, Recovery.signatures, ih]
    rfl

theorem podsObstacle?_updatedBy (pods : List PodObservation) (count ordinal : Nat) :
    Recovery.podsObstacle? (c.updatedBy u time) pods count ordinal = Recovery.podsObstacle? c pods count ordinal := by
  induction count generalizing ordinal with
  | zero => rfl
  | succ count ih =>
    rw [Recovery.podsObstacle?, Recovery.podsObstacle?, ih]
    rfl

theorem recover_updatedBy (pods : List PodObservation) :
    (Recovery.recover settings (c.updatedBy u time) pods : Pass σ _) = Recovery.recover settings c pods := by
  have hobstacle : Recovery.obstacle? (c.updatedBy u time) pods = Recovery.obstacle? c pods := by
    rw [Recovery.obstacle?, Recovery.obstacle?, podsObstacle?_updatedBy]
    rfl
  simp only [Recovery.recover, hobstacle, signatures_updatedBy]
  rfl

theorem volumes_updatedBy :
    (Volume.reconcile settings (c.updatedBy u time) : Pass σ _) = Volume.reconcile settings c := by
  have hdecide (ns : String) (claims : List Claim) (actual : Nat) (configured : String) :
      (Volume.decideOn settings ns (c.updatedBy u time) claims actual configured : Pass σ _) =
        Volume.decideOn settings ns c claims actual configured := rfl
  unfold Volume.reconcile
  rw [metadata_updatedBy]
  cases c.metadata.ns? with
  | none => rfl
  | some ns =>
    refine bind_congr fun volumes ↦ if_congr Iff.rfl rfl (bind_congr fun least? ↦ ?_)
    cases least? with
    | none => rfl
    | some actual =>
      refine bind_congr fun set? ↦ ?_
      cases set? with
      | none => rfl
      | some set =>
        cases hconfigured : set.templateRequest? dataVolume with
        | none => simp only [hconfigured]
        | some configured =>
          simp only [hconfigured]
          exact hdecide ns volumes.used actual configured

/-- What a pass does is up to the owner of a cluster, not to the status that the operator wrote. -/
theorem reconcile_updatedBy : reconcile settings (c.updatedBy u time) = reconcile settings c := by
  have hsteps (key : String) : runSteps settings key (c.updatedBy u time) = runSteps settings key c := by
    simp only [runSteps, recoverStep, recover_updatedBy, volumes_updatedBy]
    rfl
  simp only [reconcile, hsteps]
  rfl

end Demand

open Undisturbed
open Interaction (Gives gives_append gives_course)

variable {τ : Type} {clock : Instant} {executor : Executor τ} {key : String} {m m' n n' : Memory}
  {es es' : List Exchange} {update : StatusUpdate} {w v w' v' : Store × τ}

@[simp] theorem registry_clearFailures (m : Memory) (key : String) :
    (m.clearFailures key).registry key = m.registry key := rfl

/-- Writing a status where nothing disturbs it. -/
theorem write_undisturbed {r : Except Failure Unit} (h : (update.write settings c).Runs m es r m')
    (hgives : Gives (undisturbed clock executor) w es v) (hns : c.metadata.ns? = some ns)
    {held : Cluster} (hheld : w.1.clusters.find? ns c.name = some held) :
    m' = m ∧ v.2 = w.2 ∧ update.Written ns c.name clock held w.1 es r v.1 := by
  have houtside : ∀ call ∈ calls es, call.entersContainer = false :=
    StatusUpdate.asks_write (fun _ _ ↦ rfl) (fun _ _ ↦ rfl) _ _ _ _ h
  obtain ⟨hserves, hgranted, hexecutor⟩ := serves_of_gives hgives houtside
  obtain ⟨rfl, hwritten⟩ :=
    StatusUpdate.runs_write_granted h hserves hgranted (fun time ↦ time_of_gives hgives) hns hheld
  exact ⟨rfl, hexecutor, hwritten⟩

/-- Nothing in a report can fail. -/
theorem ok_of_reportPass {name : String} {r : Except Failure Unit} (h : (reportPass ns name update).Runs m es r m') :
    r = .ok () := by
  have htouch {es : List Exchange} {m₁ m' : Memory} {r : Except Failure Unit}
      (h : (do ask (.touch (← now).unixSeconds.toNat) : Pass Memory Unit).Runs m₁ es r m') : r = .ok () := by
    obtain ⟨time, rest, rfl, htouch⟩ := runs_ask_bind.1 h
    obtain ⟨reply, -, rfl, -⟩ := runs_ask.1 htouch
    rfl
  obtain ⟨reply, rest, rfl, hrest⟩ := runs_ask_bind.1 h
  cases update with
  | failed message => exact htouch hrest
  | observed o =>
    rcases runs_bind.1 hrest with ⟨_, _, _, _, rfl, -, hlast⟩ | ⟨f, rfl, hpods⟩
    · exact htouch hlast
    · refine absurd (ok_of_forM (fun (tier, status?) m es r m' htier ↦ ?_) hpods) nofun
      cases status? with
      | none =>
        obtain ⟨-, rfl, -⟩ := runs_pure.1 htier
        rfl
      | some status =>
        obtain ⟨reply, -, rfl, -⟩ := runs_ask.1 htier
        rfl

/-- What is left of a pass when its steps went well. -/
def conclude (settings : Settings) (ns : String) (c : Cluster) (update : StatusUpdate) : Pass Memory Requeue := do
  update.write settings c
  modify (·.clearFailures (clusterKey ns c.name))
  reportPass ns c.name update
  return .after settings.interval

/-- A pass over a cluster that is not being deleted. -/
theorem reconcile_live (hns : c.metadata.ns? = some ns) (hlive : c.metadata.deletionTimestamp.isSome = false) :
    reconcile settings c = attempt (runSteps settings (clusterKey ns c.name) c) >>= fun
      | .error e => attempt ((StatusUpdate.failed e.message).write settings c) >>= fun _ ↦ fail e
      | .ok update => conclude settings ns c update := by
  simp only [reconcile, hns, hlive, Bool.false_eq_true, if_false]
  rfl

/-- A pass over a cluster that is being deleted. -/
theorem reconcile_deleted (hns : c.metadata.ns? = some ns) (hdeleted : c.metadata.deletionTimestamp.isSome = true) :
    reconcile settings c = modify (·.forget (clusterKey ns c.name)) >>= fun _ ↦ pure .onChange := by
  simp only [reconcile, hns, hdeleted, if_true]

/-- The end of a pass goes well and leaves the cluster with its status up to date. If it was so before, nothing is
written. -/
theorem runs_conclude {r : Except Failure Requeue} {held : Cluster} (h : (conclude settings ns c update).Runs m es r m')
    (hgives : Gives (undisturbed clock executor) w es v) (hns : c.metadata.ns? = some ns)
    (hheld : w.1.clusters.find? ns c.name = some held) :
    r = .ok (.after settings.interval) ∧ m' = m.clearFailures (clusterKey ns c.name) ∧ w.1.SameButClusters v.1 ∧
      v.1.clusters.find? ns c.name = some (held.updatedBy update clock) ∧
      (update.needsWrite clock (held.status.getD .initial) = false → Reads es) := by
  rcases runs_bind.1 h with ⟨es₁, _, _, m₁, rfl, hwrite, hafter⟩ | ⟨f, rfl, hwrite⟩
  · obtain ⟨v₁, hgives₁, hgives⟩ := gives_append.1 hgives
    obtain ⟨rfl, -, hwritten⟩ := write_undisturbed hwrite hgives₁ hns hheld
    rcases runs_bind.1 (runs_modify_bind.1 hafter) with ⟨es₂, _, _, m₂, rfl, hreport, hend⟩ | ⟨f, rfl, hreport⟩
    · obtain ⟨v₂, hgives₂, hdone⟩ := gives_append.1 hgives
      obtain ⟨rfl, rfl, rfl⟩ := runs_pure.1 hend
      obtain rfl : v = v₂ := hdone
      obtain ⟨rfl, -⟩ := (looks_reportPass ..).memoryless _ _ _ _ hreport
      have hreads := (looks_reportPass ..).reads hreport
      rw [store_of_reads hgives₂ hreads]
      refine ⟨rfl, rfl, hwritten.same, hwritten.stored, fun hdone ↦ ?_⟩
      simp only [reads_append]
      exact ⟨hwritten.reads hdone, hreads, reads_nil⟩
    · cases ok_of_reportPass hreport
  · obtain ⟨-, -, hwritten⟩ := write_undisturbed hwrite hgives hns hheld
    cases hwritten.ok

/-- A pass that ends well over a cluster that is not being deleted: its steps, and what is left of it then. -/
theorem runs_reconcile_ok {requeue : Requeue} (h : (reconcile settings c).Runs m es (.ok requeue) m')
    (hns : c.metadata.ns? = some ns) (hlive : c.metadata.deletionTimestamp.isSome = false) :
    ∃ es₁ es₂ update m₁, es = es₁ ++ es₂ ∧
      (runSteps settings (clusterKey ns c.name) c).Runs m es₁ (.ok update) m₁ ∧
      (conclude settings ns c update).Runs m₁ es₂ (.ok requeue) m' := by
  rw [reconcile_live hns hlive] at h
  obtain ⟨es₁, es₂, result, m₁, rfl, hattempt, hrest⟩ := runs_bind_ok.1 h
  rcases runs_attempt.1 hattempt with ⟨update, hr, hsteps⟩ | ⟨e, hr, -⟩ | ⟨o, hr, -⟩ <;> cases hr
  · exact ⟨es₁, es₂, update, m₁, rfl, hsteps, hrest⟩
  · obtain ⟨_, _, _, _, -, -, hfail⟩ := runs_bind_ok.1 hrest
    obtain ⟨-, hr, -⟩ := runs_fail.1 hfail
    cases hr

/-- A pass whose steps go well in any case comes to what is left of it. -/
theorem runs_reconcile_of_steps {r : Except Failure Requeue} (h : (reconcile settings c).Runs m es r m')
    (hgives : Gives (undisturbed clock executor) w es v) (hns : c.metadata.ns? = some ns)
    (hlive : c.metadata.deletionTimestamp.isSome = false)
    (hsteps : ∀ es r m' v, (runSteps settings (clusterKey ns c.name) c).Runs m es r m' →
      Gives (undisturbed clock executor) w es v → r = .ok update ∧ Reads es ∧ v.1 = w.1) :
    ∃ es₁ es₂ m₁ v₁, es = es₁ ++ es₂ ∧ Reads es₁ ∧ v₁.1 = w.1 ∧
      (conclude settings ns c update).Runs m₁ es₂ r m' ∧ Gives (undisturbed clock executor) v₁ es₂ v := by
  rw [reconcile_live hns hlive] at h
  rcases runs_bind.1 h with ⟨es₁, es₂, result, m₁, rfl, hattempt, hrest⟩ | ⟨f, rfl, hattempt⟩
  · obtain ⟨v₁, hgives₁, hgives₂⟩ := gives_append.1 hgives
    rcases runs_attempt.1 hattempt with ⟨updated, hr, hrun⟩ | ⟨e, hr, hrun⟩ | ⟨o, hr, -⟩
    · obtain ⟨hr', hreads, hsame⟩ := hsteps _ _ _ _ hrun hgives₁
      cases hr'
      cases hr
      exact ⟨es₁, es₂, m₁, v₁, rfl, hreads, hsame, hrest, hgives₂⟩
    · obtain ⟨hr', -⟩ := hsteps _ _ _ _ hrun hgives₁
      cases hr'
    · cases hr
  · rcases runs_attempt.1 hattempt with ⟨_, hr, -⟩ | ⟨_, hr, -⟩ | ⟨o, hr, hrun⟩ <;> cases hr
    obtain ⟨hr, -⟩ := hsteps _ _ _ _ hrun hgives
    cases hr

/-- A pass over a cluster that is not being deleted, after one that ended well and resized nothing. -/
theorem reconcile_again {requeue : Requeue} (h : (reconcile settings c).Runs m es (.ok requeue) m')
    (hgives : Gives (undisturbed clock executor) w es v) (hns : c.metadata.ns? = some ns)
    (hlive : c.metadata.deletionTimestamp.isSome = false)
    (hjobs : ((Schedules.schedulesOf c).map (jobName c.name ·.name)).Nodup) (hnamed : w.1.Named)
    (hstored : w.1.clusters.find? ns c.name = some c) (hresize : Volume.NoResize es) :
    ∃ update, v.1.clusters.find? ns c.name = some (c.updatedBy update clock) ∧
      ∀ es' r n' v', (reconcile settings c).Runs m' es' r n' → Gives (undisturbed clock executor) (v.1, w.2) es' v' →
        r = .ok requeue ∧ Reads es' := by
  obtain ⟨es₁, es₂, update, m₁, rfl, hsteps, hend⟩ := runs_reconcile_ok h hns hlive
  obtain ⟨v₁, hgives₁, hgives₂⟩ := gives_append.1 hgives
  have hresize₁ : Volume.NoResize es₁ := fun call hcall ↦ hresize call (by simp [hcall])
  obtain ⟨hnamed₁, hsame, hsettled⟩ := runSteps_rests hsteps hgives₁ hns hnamed hjobs hresize₁
  have hheld : v₁.1.clusters.find? ns c.name = some c := by
    rw [hsame]
    exact hstored
  obtain ⟨hr, rfl, hclusters, hupdated, -⟩ := runs_conclude hend hgives₂ hns hheld
  cases hr
  refine ⟨update, hupdated, fun es' r n' v' h' hgives' ↦ ?_⟩
  have halike : Alike w (v.1, w.2) := by
    refine ⟨v.1.clusters, v.1.cronJobs, v.1.backups, ?_⟩
    rw [hclusters, hsame]
  have hnamed' : v.1.Named := by
    rw [hclusters]
    exact ⟨hnamed₁.cronJobs, hnamed₁.backups⟩
  have hsettled' : Schedules.Settled settings ns c
      ((m₁.clearFailures (clusterKey ns c.name)).registry (clusterKey ns c.name)) v.1 := by
    rw [registry_clearFailures, hclusters]
    exact ⟨hsettled.jobs, hsettled.records⟩
  obtain ⟨es₁', es₂', n₁, v₁', rfl, hreads, hstore, hend', hgives₂'⟩ := runs_reconcile_of_steps h' hgives' hns hlive
    fun _ _ _ _ hrun hg ↦ runSteps_again hsteps hgives₁ hns hjobs hresize₁ halike hnamed' hsettled' hrun hg
  rw [← hstore] at hupdated
  obtain ⟨hr, -, -, -, hreads'⟩ := runs_conclude hend' hgives₂' hns hupdated
  rw [reads_append]
  exact ⟨hr, hreads, hreads' (StatusUpdate.needsWrite_apply ..)⟩

/-- The control loop comes to rest. After a pass over a stored cluster that ends well and neither starts nor completes a
resize, another one by the same clock, with containers that answer the same, ends well and writes nothing. -/
theorem reconcile_quiescent {s s₁ : Store} {x x₁ : τ} {memory memory₁ : Memory} {requeue : Requeue}
    (hjobs : ((Schedules.schedulesOf c).map (jobName c.name ·.name)).Nodup) (hnamed : s.Named)
    (hstored : s.clusters.find? (Objects.namespaceOf c) c.name = some c)
    (hends : (reconcile settings c).runIn (undisturbed clock executor) memory (s, x) =
      ((.ok requeue, memory₁), (s₁, x₁)))
    (hresize : Volume.NoResize ((reconcile settings c).courseIn (undisturbed clock executor) memory (s, x))) :
    ∃ c₁, s₁.clusters.find? (Objects.namespaceOf c) c.name = some c₁ ∧
      ((reconcile settings c₁).runIn (undisturbed clock executor) memory₁ (s₁, x)).1.1 = .ok requeue ∧
      Reads ((reconcile settings c₁).courseIn (undisturbed clock executor) memory₁ (s₁, x)) := by
  have hrun := runs_courseIn (reconcile settings c) (undisturbed clock executor) memory (s, x)
  have hgives := gives_course (undisturbed clock executor) ((reconcile settings c).run.run memory) (s, x)
  change Gives _ _ (courseIn ..) (runIn ..).2 at hgives
  rw [hends] at hrun hgives
  cases hns : c.metadata.ns? with
  | none =>
    simp only [reconcile, hns] at hrun
    obtain ⟨-, hr, -⟩ := runs_fail.1 hrun
    cases hr
  | some ns =>
    have hkept : Objects.namespaceOf c = ns := congrArg (·.getD "") hns
    rw [hkept] at hstored ⊢
    by_cases hlive : c.metadata.deletionTimestamp.isSome
    · rw [reconcile_deleted hns hlive] at hends
      cases hends
      refine ⟨c, hstored, ?_⟩
      rw [reconcile_deleted hns hlive]
      exact ⟨rfl, reads_nil⟩
    · obtain ⟨update, hupdated, hagain⟩ :=
        reconcile_again hrun hgives hns (Bool.eq_false_iff.2 hlive) hjobs hnamed hstored hresize
      refine ⟨_, hupdated, ?_⟩
      rw [reconcile_updatedBy]
      exact hagain _ _ _ _ (runs_courseIn ..) (gives_course ..)

/-- A cluster with a weekly backup. -/
private def weekly : Cluster where
  metadata := { ObjectMeta.empty with name := some "db", ns? := some "prod" }
  spec := ⟨⟨1, "image", true, ⟨none, "1Gi"⟩⟩, none, none, false,
    some ⟨"image", .ofList [("disk", .filesystem "claim")], [⟨"weekly", "0 0 * * 0", 1, "disk"⟩]⟩⟩
  status := none

/-- A server that holds nothing but the cluster. -/
private def weeklyStore : Store := { Store.empty with clusters := [weekly] }

/-- Containers that answer what a server tells of them. -/
private def weeklyExecutor : Executor Store := fun call s ↦ (.ok (s.perform call).1, s)

/-- Where and when the cluster is looked after. -/
private def weeklySurroundings : Interaction.Surroundings (Store × Store) :=
  undisturbed Store.standstill weeklyExecutor

/-- What happens in the first pass. -/
private def weeklyCourse : List Exchange :=
  (reconcile .standard weekly).courseIn weeklySurroundings .empty (weeklyStore, weeklyStore)

/-- What becomes of the first pass, and of the server and the containers. -/
private def weeklyEnd : (Except Failure Requeue × Memory) × (Store × Store) :=
  (reconcile .standard weekly).runIn weeklySurroundings .empty (weeklyStore, weeklyStore)

/-- The first pass makes the job and writes the status, and the second one writes nothing. -/
theorem reconcile_quiescent_weekly : ¬Reads weeklyCourse ∧
    ∃ c₁, weeklyEnd.2.1.clusters.find? "prod" "db" = some c₁ ∧
      ((reconcile .standard c₁).runIn weeklySurroundings weeklyEnd.1.2 (weeklyEnd.2.1, weeklyStore)).1.1 =
        .ok (.after Settings.standard.interval) ∧
      Reads ((reconcile .standard c₁).courseIn weeklySurroundings weeklyEnd.1.2 (weeklyEnd.2.1, weeklyStore)) := by
  have hjobs : ((Schedules.schedulesOf weekly).map (jobName weekly.name ·.name)).Nodup := List.nodup_singleton _
  have hnamed : weeklyStore.Named := ⟨List.forall_mem_nil _, List.forall_mem_nil _⟩
  have hstored : weeklyStore.clusters.find? (Objects.namespaceOf weekly) weekly.name = some weekly := by decide +kernel
  have hfirst : weeklyEnd.1.1 = .ok (.after Settings.standard.interval) ∧
      (∀ call ∈ calls weeklyCourse, call.operation ≠ .replaceCluster ∧ call.operation ≠ .orphanStatefulSet) ∧
      ¬∀ call ∈ calls weeklyCourse, call.isWrite = false := by
    decide +kernel
  obtain ⟨hok, hresize, hwrites⟩ := hfirst
  have hends : weeklyEnd =
      ((.ok (.after Settings.standard.interval), weeklyEnd.1.2), (weeklyEnd.2.1, weeklyEnd.2.2)) := by
    rw [← hok]
  exact ⟨hwrites, reconcile_quiescent hjobs hnamed hstored hends hresize⟩

end GaleraOperator
