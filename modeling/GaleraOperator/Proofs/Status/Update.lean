import GaleraOperator.Proofs.Status.History

/-!
# Updating a status again

Whether an update has anything to write depends on the status alone and not on the time: an observation has if the
status tells something else, or if its history does not end in the observed state; a failure has unless the status is in
error. A status that was brought up to date therefore stays as it is under the same update, whenever that is made again.
-/

namespace GaleraOperator

theorem getLast?_recordChange (history : List StateChange) (change : StateChange) :
    ((recordChange history change).getLast?.map (·.state)) = some change.state := by
  unfold recordChange
  split
  · next hsame => exact hsame
  · dsimp only
    rw [List.getLast?_drop, if_neg]
    · simp
    · simp [maxHistory]

/-- Nothing is recorded exactly if the history ends in the state already. -/
theorem recordChange_eq_self_iff {history : List StateChange} {change : StateChange} :
    recordChange history change = history ↔ history.getLast?.map (·.state) = some change.state := by
  constructor
  · intro hsame
    rw [← getLast?_recordChange history change, hsame]
  · intro hlast
    rw [recordChange, if_pos hlast]

namespace StatusUpdate

variable {u : StatusUpdate} {o : ClusterObservation} {time : Instant} {s : ClusterStatus}

/-- What is not written would change nothing. -/
theorem apply_eq_self (h : ¬u.needsWrite time s) : u.apply time s = s := by
  cases u with
  | failed message =>
    have hstate : s.state = .error := by simpa [needsWrite] using h
    exact apply_failed_of_error time hstate
  | observed o => simpa [needsWrite] using h

/-- A status is written exactly if the update changes it. -/
theorem needsWrite_iff_apply_ne : u.needsWrite time s = true ↔ u.apply time s ≠ s := by
  constructor
  · intro hneeds hsame
    cases u with
    | failed message =>
      have hstate : s.state ≠ .error := by simpa [needsWrite] using hneeds
      exact hstate (by rw [← hsame, state_apply, state])
    | observed o => exact absurd hsame (by simpa [needsWrite] using hneeds)
  · intro hchanges
    by_contra hneedless
    exact hchanges (apply_eq_self hneedless)

/-- A status is always written where there is none. -/
theorem needsWrite_initial (u : StatusUpdate) (time : Instant) : u.needsWrite time .initial = true := by
  cases u with
  | failed message => rfl
  | observed o =>
    rw [needsWrite_iff_apply_ne]
    intro hsame
    cases congrArg ClusterStatus.database hsame

/-- The status tells what was observed, and its history ends in the observed state. -/
def Shows (s : ClusterStatus) (o : ClusterObservation) : Prop :=
  (s.database = some o.database ∧ s.haproxy = o.haproxy ∧ s.proxysql = o.proxysql ∧ s.state = o.state ∧
    s.host = some o.host ∧ s.messages = o.messages ∧ s.observedGeneration = o.observedGeneration) ∧
  s.history.getLast?.map (·.state) = some o.state

theorem apply_observed_eq_self_iff : (observed o).apply time s = s ↔ Shows s o := by
  obtain ⟨database, haproxy, proxysql, state, host, messages, history, generation⟩ := s
  simp only [apply, Shows, ClusterStatus.mk.injEq, recordChange_eq_self_iff, change, StatusUpdate.state]
  grind

/-- Whether there is something to write does not depend on the time. -/
theorem needsWrite_time (u : StatusUpdate) (time later : Instant) (s : ClusterStatus) :
    u.needsWrite later s = u.needsWrite time s := by
  cases u with
  | failed message => rfl
  | observed o =>
    have hsame : (observed o).apply later s = s ↔ (observed o).apply time s = s :=
      apply_observed_eq_self_iff.trans apply_observed_eq_self_iff.symm
    exact decide_eq_decide.2 (not_congr hsame)

/-- A status that is up to date needs no write. -/
theorem needsWrite_apply (u : StatusUpdate) (time later : Instant) (s : ClusterStatus) :
    u.needsWrite later (u.apply time s) = false := by
  cases u with
  | failed message =>
    have hstate : ((failed message).apply time s).state = .error := state_apply ..
    simp [needsWrite, hstate]
  | observed o =>
    have hshows : Shows ((observed o).apply time s) o :=
      ⟨⟨rfl, rfl, rfl, rfl, rfl, rfl, rfl⟩, getLast?_recordChange ..⟩
    simpa [needsWrite] using apply_observed_eq_self_iff.2 hshows

/-- An update that is made again changes nothing. -/
theorem apply_apply (u : StatusUpdate) (time later : Instant) (s : ClusterStatus) :
    u.apply later (u.apply time s) = u.apply time s :=
  apply_eq_self (Bool.eq_false_iff.1 (needsWrite_apply u time later s))

/-- What is known of the tiers does not change when a pass fails. -/
theorem apply_failed_keeps (message : String) (time : Instant) (s : ClusterStatus) :
    ((failed message).apply time s).database = s.database ∧ ((failed message).apply time s).haproxy = s.haproxy ∧
      ((failed message).apply time s).proxysql = s.proxysql ∧ ((failed message).apply time s).host = s.host ∧
      ((failed message).apply time s).observedGeneration = s.observedGeneration := by
  rw [apply]
  split <;> exact ⟨rfl, rfl, rfl, rfl, rfl⟩

/-- A status is written exactly if the update changes it, whatever status it is. A failure leaves what is known of the
tiers; and the same update made again, at whatever time, has nothing to write and changes nothing. -/
theorem needsWrite_exactly (u : StatusUpdate) (time : Instant) (s : ClusterStatus) :
    (u.needsWrite time s = true ↔ u.apply time s ≠ s) ∧
    (∀ message, ((failed message).apply time s).database = s.database ∧
      ((failed message).apply time s).haproxy = s.haproxy ∧ ((failed message).apply time s).proxysql = s.proxysql ∧
      ((failed message).apply time s).host = s.host ∧
      ((failed message).apply time s).observedGeneration = s.observedGeneration) ∧
    ∀ later, u.needsWrite later (u.apply time s) = false ∧ u.apply later (u.apply time s) = u.apply time s :=
  ⟨needsWrite_iff_apply_ne, fun message ↦ apply_failed_keeps message time s,
    fun later ↦ ⟨needsWrite_apply u time later s, apply_apply u time later s⟩⟩

end StatusUpdate

namespace TimedUpdate

private theorem foldl_destutter' (u : TimedUpdate) (run : List TimedUpdate) (s : ClusterStatus) :
    (run.destutter' (·.update ≠ ·.update) u).foldl (fun status u ↦ u.update.apply u.time status) s =
      (u :: run).foldl (fun status u ↦ u.update.apply u.time status) s := by
  induction run generalizing u s with
  | nil => rfl
  | cons v run ih =>
    rw [List.destutter'_cons]
    split
    · rw [List.foldl_cons, ih, ← List.foldl_cons]
    · next hsame =>
      obtain hsame : u.update = v.update := not_ne_iff.1 hsame
      rw [ih]
      simp only [List.foldl_cons, ← hsame, StatusUpdate.apply_apply]

/-- Of updates in a row that say the same the status shows the first one. -/
theorem statusAfter_destutter (run : List TimedUpdate) :
    statusAfter (run.destutter (·.update ≠ ·.update)) = statusAfter run := by
  cases run with
  | nil => rfl
  | cons u run => exact foldl_destutter' u run .initial

end TimedUpdate

end GaleraOperator
