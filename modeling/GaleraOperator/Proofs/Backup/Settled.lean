import GaleraOperator.Proofs.Backup.Alignment
import GaleraOperator.Proofs.Undisturbed

/-!
# Schedules that need nothing more

When a pass over the schedules of a cluster is refused nothing, no more succeeded records are left of any schedule
than it keeps, and the jobs are in line. A pass that finds the schedules like that writes nothing.
-/

namespace GaleraOperator

open Kube Pass

/-- Where nothing is refused, the records are deleted whose deletion is asked. -/
theorem mem_deletedNames_iff {es : List Exchange} {name : String} (hgranted : Store.Granted es) :
    name ∈ deletedNames es ↔ ∃ ns, .deleteBackup ns name ∈ calls es := by
  refine ⟨mem_deletedNames, ?_⟩
  rintro ⟨ns, hcall⟩
  obtain ⟨reply, hmem⟩ := mem_calls.1 hcall
  cases reply with
  | error e => exact absurd hmem (hgranted _ e)
  | ok answer => exact List.mem_filterMap.2 ⟨_, hmem, rfl⟩

/-- The server has given every job and every record a name. -/
structure Store.Named (s : Store) : Prop where
  cronJobs : Objects.Named s.cronJobs
  backups : Objects.Named s.backups

namespace Schedules

variable {σ : Type} {m m' : σ} {settings : Settings} {ns cluster : String} {c : Cluster} {es : List Exchange}
  {s t : Store} {registry registry' : Registry} {records records' : Objects Backup} {entry : String × Schedule}

/-- No more succeeded records of a schedule are held than it keeps, if it does not keep all of them. -/
def Trimmed (ns cluster : String) (records : Objects Backup) (entry : String × Schedule) : Prop :=
  entry.2.keep ≠ 0 →
    (Backup.succeededAges (records.select ns (recordLabels cluster entry.1).selector)).length ≤ entry.2.keep.toNat

theorem Trimmed.sublist (h : Trimmed ns cluster records entry) (hsub : records'.Sublist records) :
    Trimmed ns cluster records' entry := by
  intro hkeep
  refine Nat.le_trans (List.Sublist.length_le ?_) (h hkeep)
  exact (((hsub.filter _).filter _).map _)

/-- The operations by which records are looked after. -/
def recordOperations : List Operation := [.listBackups, .deleteBackup]

section Asks

variable {P : Call → Prop} (hP : ∀ call : Call, call.operation ∈ recordOperations → P call)

include hP

theorem asks_deleteRecord (name : String) : Asks P (deleteRecord (σ := σ) ns name) := by
  refine (Asks.call (hP _ (by simp [Call.operation, recordOperations]))).attempt.bind fun reply ↦ ?_
  cases reply <;> exact .pure _

theorem asks_pruneDeclared (entry : String × Schedule) : Asks P (pruneDeclared (σ := σ) ns cluster entry) := by
  unfold pruneDeclared
  by_cases hkeep : entry.2.keep = 0
  · simp only [hkeep, if_true]
    exact .pure _
  · simp only [hkeep, if_false]
    refine Asks.bind (Asks.attempt ?_) fun attempted ↦ by cases attempted <;> exact .pure _
    exact (Asks.call (hP _ (by simp [Call.operation, recordOperations]))).bind fun _ ↦
      (Asks.mapM (asks_deleteRecord hP) _).bind fun _ ↦ .pure _

/-- Looking after records takes no other operations than those on records. -/
theorem asks_pruneAll (changes : List JobChange) (undeclared : List String) :
    Asks P (pruneAll ns c changes undeclared) := by
  refine (Asks.mapM (asks_pruneDeclared hP) _).bind fun counts ↦ ?_
  by_cases hpruned : 0 < total counts
  · simp only [hpruned, if_true]
    exact (Asks.aside fun _ ↦ rfl).bind fun _ ↦ .pure _
  · simp only [hpruned, if_false]
    exact .pure _

end Asks

/-- The listing of the records of a job after some were deleted. -/
theorem select_filter {records : Objects Backup} {selector : String} {names : List String}
    (hnamed : Objects.Named records) :
    Objects.select ns selector
        (records.filter fun b ↦ !(Objects.namespaceOf b = ns && names.contains (Objects.nameOf b))) =
      (records.select ns selector).filter fun b ↦ !names.contains b.name := by
  rw [Objects.select, Objects.select, List.filter_filter, List.filter_filter]
  refine List.filter_congr fun b hb ↦ ?_
  rw [Objects.nameOf_backup (hnamed b hb)]
  by_cases hns : Objects.namespaceOf b = ns <;> simp [hns, Bool.and_comm]

/-- Deleting records takes out those of the given names. -/
theorem backups_of_deletes {names : List String} (hs : s.Serves es t) (hgranted : Store.Granted es)
    (hcalls : calls es = names.map (.deleteBackup ns)) :
    t.backups = s.backups.filter fun b ↦ !(Objects.namespaceOf b = ns && names.contains (Objects.nameOf b)) := by
  have hmem : ∀ ns' name, .deleteBackup ns' name ∈ calls es ↔ ns' = ns ∧ name ∈ names := by
    intro ns' name
    simp [hcalls, eq_comm, and_comm]
  have hdeleted : ∀ name, (deletedNames es).contains name = names.contains name := by
    intro name
    rw [Bool.eq_iff_iff, List.contains_iff_mem, List.contains_iff_mem, mem_deletedNames_iff hgranted]
    simp [hmem]
  simp only [hs.backups_eq fun ns' name hcall ↦ ((hmem ns' name).1 hcall).1, hdeleted]

/-- Looking after the records of a schedule leaves no more than it keeps. -/
theorem runs_pruneDeclared_granted {r : Except Failure Nat} (h : (pruneDeclared ns cluster entry).Runs m es r m')
    (hs : s.Serves es t) (hgranted : Store.Granted es) (hnamed : Objects.Named s.backups) :
    m' = m ∧ (∃ count, r = .ok count) ∧ Trimmed ns cluster t.backups entry ∧ t.backups.Sublist s.backups ∧
      (Trimmed ns cluster s.backups entry → Reads es) := by
  obtain ⟨rfl, hpruned, rfl⟩ := runs_pruneDeclared h
  refine ⟨rfl, ⟨_, rfl⟩, ?_⟩
  cases hpruned with
  | kept all =>
    obtain rfl : t = s := hs
    exact ⟨fun hkeep ↦ absurd all hkeep, .refl _, fun _ ↦ reads_nil⟩
  | unlisted keeps => exact absurd (List.mem_singleton_self _) (hgranted _ _)
  | @listed records rest keeps deletes =>
    obtain ⟨rfl, hrest⟩ := Store.serves_ok.1 hs
    have hserves : s.Serves rest t := hrest
    have hgranted' : Store.Granted rest := fun call e hmem ↦ hgranted call e (List.mem_cons_of_mem _ hmem)
    have hbackups := backups_of_deletes hserves hgranted' deletes
    rw [hbackups]
    refine ⟨fun _ ↦ ?_, List.filter_sublist, fun htrimmed ↦ ?_⟩
    · rw [select_filter hnamed]
      exact Backup.length_succeededAges_unexpired_le _ _
    · have hnone := Backup.expired_eq_nil (htrimmed keeps)
      have hcalls : calls rest = [] := by
        rw [deletes]
        exact congrArg (List.map _) hnone
      simp [hcalls, Reads, Call.isWrite]

/-- Looking after the records of schedules leaves no more of each than it keeps. -/
theorem runs_pruneEntries_granted {entries : List (String × Schedule)} {r : Except Failure (List Nat)}
    (h : (entries.mapM (pruneDeclared ns cluster)).Runs m es r m') (hs : s.Serves es t) (hgranted : Store.Granted es)
    (hnamed : Objects.Named s.backups) :
    m' = m ∧ (∃ counts, r = .ok counts) ∧ (∀ entry ∈ entries, Trimmed ns cluster t.backups entry) ∧
      t.backups.Sublist s.backups ∧ ((∀ entry ∈ entries, Trimmed ns cluster s.backups entry) → Reads es) := by
  induction entries generalizing m s es r with
  | nil =>
    obtain ⟨rfl, rfl, rfl⟩ := runs_mapM_nil.1 h
    obtain rfl : t = s := hs
    exact ⟨rfl, ⟨_, rfl⟩, List.forall_mem_nil _, .refl _, fun _ ↦ reads_nil⟩
  | cons first rest ih =>
    rcases runs_mapM_cons.1 h with ⟨es₁, es₂, count, m₁, r₂, rfl, hfirst, hrest, rfl⟩ | ⟨f, rfl, hfirst⟩
    · obtain ⟨u, hs₁, hs₂⟩ := Store.serves_append.1 hs
      obtain ⟨hgranted₁, hgranted₂⟩ := Store.granted_append.1 hgranted
      obtain ⟨rfl, -, htrimmed, hsub, hreads⟩ := runs_pruneDeclared_granted hfirst hs₁ hgranted₁ hnamed
      have hnamed' : Objects.Named u.backups := fun b hb ↦ hnamed b (hsub.subset hb)
      obtain ⟨rfl, ⟨counts, rfl⟩, hall, hsub', hreads'⟩ := ih hrest hs₂ hgranted₂ hnamed'
      refine ⟨rfl, ⟨count :: counts, rfl⟩, List.forall_mem_cons.2 ⟨htrimmed.sublist hsub', hall⟩, hsub'.trans hsub, ?_⟩
      intro hready
      obtain ⟨hready₁, hready₂⟩ := List.forall_mem_cons.1 hready
      rw [reads_append]
      exact ⟨hreads hready₁, hreads' fun entry hentry ↦ (hready₂ entry hentry).sublist hsub⟩
    · obtain ⟨-, ⟨_, hr⟩, -⟩ := runs_pruneDeclared_granted hfirst hs hgranted hnamed
      cases hr

/-- The schedules of a cluster need nothing more: their jobs are in line, and no more of their records are held than
they keep. -/
structure Settled (settings : Settings) (ns : String) (c : Cluster) (registry : Registry) (s : Store) : Prop where
  jobs : Aligned settings ns c registry s.cronJobs
  records : ∀ entry ∈ (declared c).toList, Trimmed ns c.name s.backups entry

/-- The operations that a pass over the schedules of a cluster takes. -/
theorem asks_reconcile {P : Call → Prop}
    (hP : ∀ call : Call, call.operation ∈ jobOperations ++ recordOperations → P call) :
    Asks P (reconcile settings c) := by
  cases hns : c.metadata.ns? with
  | none =>
    simp only [reconcile, hns]
    exact .fail _
  | some ns =>
    rw [reconcile_eq hns]
    refine (asks_alignJobs_of_operation fun call h ↦ hP call (List.mem_append_left _ h)).bind fun outcome ↦ ?_
    exact asks_pruneAll (fun call h ↦ hP call (List.mem_append_right _ h)) _ _

theorem perform_jobOperation {call : Call} (h : call.operation ∈ jobOperations) (s : Store) :
    (s.perform call).2 = { s with cronJobs := (s.perform call).2.cronJobs } := by
  cases call <;> first | rfl | simp [Call.operation, jobOperations] at h

theorem perform_recordOperation {call : Call} (h : call.operation ∈ recordOperations) (s : Store) :
    (s.perform call).2 = { s with backups := (s.perform call).2.backups } := by
  cases call <;> first | rfl | simp [Call.operation, recordOperations] at h

theorem not_entersContainer {call : Call} (h : call.operation ∈ jobOperations ++ recordOperations) :
    call.entersContainer = false := by
  cases call <;> first | rfl | simp [Call.operation, jobOperations, recordOperations] at h

theorem runs_pruneAll_granted {changes : List JobChange} {undeclared : List String} {r : Except Failure ScheduleOutcome}
    (h : (pruneAll ns c changes undeclared).Runs registry es r registry') (hs : s.Serves es t)
    (hgranted : Store.Granted es) (hnamed : Objects.Named s.backups) :
    registry' = registry ∧ (∃ outcome, r = .ok outcome) ∧
      (∀ entry ∈ (declared c).toList, Trimmed ns c.name t.backups entry) ∧ t.backups.Sublist s.backups ∧
      ((∀ entry ∈ (declared c).toList, Trimmed ns c.name s.backups entry) → Reads es) := by
  rcases runs_bind.1 h with ⟨es₁, es₂, counts, registry₁, rfl, hprune, hmeasure⟩ | ⟨f, rfl, hprune⟩
  · obtain ⟨u, hs₁, hs₂⟩ := Store.serves_append.1 hs
    obtain ⟨hgranted₁, -⟩ := Store.granted_append.1 hgranted
    obtain ⟨rfl, -, htrimmed, hsub, hreads⟩ := runs_pruneEntries_granted hprune hs₁ hgranted₁ hnamed
    have hquiet : registry' = registry₁ ∧ (∃ outcome, r = .ok outcome) ∧ calls es₂ = [] := by
      by_cases hpruned : 0 < total counts
      · simp only [hpruned, if_true] at hmeasure
        obtain ⟨reply, rest, rfl, hend⟩ := runs_ask_bind.1 hmeasure
        obtain ⟨rfl, rfl, rfl⟩ := runs_pure.1 hend
        exact ⟨rfl, ⟨_, rfl⟩, rfl⟩
      · simp only [hpruned, if_false] at hmeasure
        obtain ⟨rfl, rfl, rfl⟩ := runs_pure.1 hmeasure
        exact ⟨rfl, ⟨_, rfl⟩, rfl⟩
    obtain ⟨rfl, houtcome, hcalls⟩ := hquiet
    have hreads₂ : Reads es₂ := by simp [Reads, hcalls]
    obtain rfl := hs₂.eq_of_reads hreads₂
    refine ⟨rfl, houtcome, htrimmed, hsub, fun hready ↦ ?_⟩
    rw [reads_append]
    exact ⟨hreads hready, hreads₂⟩
  · obtain ⟨-, ⟨_, hr⟩, -⟩ := runs_pruneEntries_granted hprune hs hgranted hnamed
    cases hr

/-- A pass that is refused nothing ends well and leaves the schedules with nothing more to do. If that is how it found
them, it writes nothing. -/
theorem settled_of_granted {r : Except Failure ScheduleOutcome}
    (h : (reconcile settings c).Runs registry es r registry') (hs : s.Serves es t) (hgranted : Store.Granted es)
    (hnamed : s.Named) (hns : c.metadata.ns? = some ns)
    (hjobs : ((schedulesOf c).map (jobName c.name ·.name)).Nodup) :
    (∃ outcome, r = .ok outcome) ∧ t.Named ∧ Settled settings ns c registry' t ∧
      (Settled settings ns c registry s → Reads es) := by
  rw [reconcile_eq hns] at h
  rcases runs_bind.1 h with ⟨es₁, es₂, outcome, registry₁, rfl, halign, hprune⟩ | ⟨f, rfl, halign⟩
  · obtain ⟨u, hs₁, hs₂⟩ := Store.serves_append.1 hs
    obtain ⟨hgranted₁, hgranted₂⟩ := Store.granted_append.1 hgranted
    -- Looking after jobs leaves the records as they are, and the other way round.
    have hbackups : u.backups = s.backups := hs₁.frame Store.backups fun call hcall v ↦ by
      have hjob := asks_alignJobs_of_operation (fun _ h ↦ h) _ _ _ _ halign call hcall
      rw [perform_jobOperation hjob]
    have hcronJobs : t.cronJobs = u.cronJobs := hs₂.frame Store.cronJobs fun call hcall v ↦ by
      have hrecord := asks_pruneAll (fun _ h ↦ h) _ _ _ _ _ _ hprune call hcall
      rw [perform_recordOperation hrecord]
    obtain ⟨-, hnamed₁, haligned, hreads₁⟩ := runs_alignJobs halign hs₁ hgranted₁ hnamed.cronJobs hns hjobs
    have hnamed₂ : Objects.Named u.backups := hbackups ▸ hnamed.backups
    obtain ⟨rfl, houtcome, htrimmed, hsub, hreads₂⟩ := runs_pruneAll_granted hprune hs₂ hgranted₂ hnamed₂
    have hnamed₃ : t.Named := ⟨hcronJobs ▸ hnamed₁, fun b hb ↦ hnamed₂ b (hsub.subset hb)⟩
    refine ⟨houtcome, hnamed₃, ⟨hcronJobs ▸ haligned, htrimmed⟩, ?_⟩
    intro hsettled
    rw [reads_append]
    exact ⟨hreads₁ hsettled.jobs, hreads₂ (hbackups ▸ hsettled.records)⟩
  · obtain ⟨⟨_, hr⟩, -⟩ := runs_alignJobs halign hs hgranted hnamed.cronJobs hns hjobs
    cases hr

end Schedules

end GaleraOperator
