import GaleraOperator.Proofs.Volume.Transition

/-!
# What is told of a claim

How far a claim has come is told by its capacity, then by events that it has failed, and then by its conditions and by
events that it moves. Only events that are dated from the start of the resize on count, and their order is of no account,
but for which of them gives its note to a failure. A resize has failed once a claim has and none moves.
-/

namespace GaleraOperator

open Kube

variable {claim : Claim} {capacity : Option Nat} {requested : Nat} {events before after added : List Event}
  {started : Instant} {event : Event} {reasons : List String}

namespace ClaimProgress

/-- An event is dated, by its time or else by its first timestamp, and not before a resize was started. -/
def DatedFrom (started : Instant) (event : Event) : Prop :=
  ∃ t, (event.eventTime = some t ∨ event.eventTime = none ∧ event.firstTime = some t) ∧ started ≤ t

/-- An event that is dated from the start of a resize on has one of some reasons. -/
def Tells (reasons : List String) (started : Instant) (event : Event) : Prop :=
  DatedFrom started event ∧ ∃ reason ∈ reasons, event.reason = some reason

/-- An event tells that a claim has failed. -/
def TellsFailure : Instant → Event → Prop := Tells ["VolumeResizeFailed"]

/-- An event tells that a claim moves. -/
def TellsMovement : Instant → Event → Prop := Tells ["Resizing", "ExternalExpanding", "FileSystemResizeRequired"]

theorem belongs_iff : belongs started event = true ↔ DatedFrom started event := by
  have htime : ∀ t, event.time? = some t ↔ event.eventTime = some t ∨ event.eventTime = none ∧ event.firstTime = some t := by
    intro t
    unfold Event.time?
    cases event.eventTime <;> simp
  simp only [belongs, Option.any_eq_true, decide_eq_true_eq, htime, DatedFrom]

theorem tellsFailure_iff (h : DatedFrom started event) :
    TellsFailure started event ↔ event.reason = some "VolumeResizeFailed" := by
  simp only [TellsFailure, Tells, h, true_and, List.mem_singleton, exists_eq_left]

theorem tellsMovement_iff (h : DatedFrom started event) : TellsMovement started event ↔
    event.reason.any ["Resizing", "ExternalExpanding", "FileSystemResizeRequired"].contains = true := by
  simp only [TellsMovement, Tells, h, true_and, Option.any_eq_true, List.contains_iff_mem]
  exact exists_congr fun reason ↦ and_comm

instance : Decidable (DatedFrom started event) := decidable_of_iff _ belongs_iff

instance : Decidable (Tells reasons started event) :=
  inferInstanceAs (Decidable (_ ∧ ∃ reason ∈ reasons, event.reason = some reason))

instance : Decidable (TellsFailure started event) := inferInstanceAs (Decidable (Tells _ started event))

instance : Decidable (TellsMovement started event) := inferInstanceAs (Decidable (Tells _ started event))

/-- A claim says of itself that it is being resized: that is one of its conditions, and true. -/
def SaysResizing (claim : Claim) : Prop :=
  ∃ status conditions, claim.status = some status ∧ status.conditions = some conditions ∧
    ∃ condition ∈ conditions, condition.status = "True" ∧ condition.type ∈ ["Resizing", "FileSystemResizePending"]

theorem isResizing_iff : claim.isResizing = true ↔ SaysResizing claim := by
  unfold Claim.isResizing SaysResizing Condition.isTrue
  rcases claim.status with - | status
  · simp
  · rcases hconditions : status.conditions with - | conditions <;> simp [hconditions]

/-- What scanning events comes to: the first that tells of a failure counts for all, or else any that tells of movement. -/
theorem scan_filter_belongs (progress : ClaimProgress) (started : Instant) (events : List Event) :
    scan progress (events.filter (belongs started)) =
      match events.find? fun event ↦ TellsFailure started event with
      | some event => .failed (event.note.getD "")
      | none => if ∃ event ∈ events, TellsMovement started event then .inProgress else progress := by
  induction events generalizing progress with
  | nil => rfl
  | cons event events ih =>
    by_cases hdated : DatedFrom started event
    · rw [List.filter_cons_of_pos (belongs_iff.2 hdated), scan]
      by_cases hfails : TellsFailure started event
      · rw [if_pos ((tellsFailure_iff hdated).1 hfails)]
        simp only [List.find?_cons, hfails, decide_true]
      · rw [if_neg (hfails ∘ (tellsFailure_iff hdated).2)]
        simp only [List.find?_cons, hfails, decide_false, List.mem_cons, exists_eq_or_imp]
        by_cases hmoves : TellsMovement started event
        · rw [if_pos ((tellsMovement_iff hdated).1 hmoves), ih]
          simp only [hmoves, true_or, if_true, ite_self]
        · rw [if_neg (hmoves ∘ (tellsMovement_iff hdated).2), ih]
          simp only [hmoves, false_or]
    · have hfails : ¬TellsFailure started event := fun h ↦ hdated h.1
      have hmoves : ¬TellsMovement started event := fun h ↦ hdated h.1
      rw [List.filter_cons_of_neg (hdated ∘ belongs_iff.1), ih]
      simp only [List.find?_cons, hfails, decide_false, List.mem_cons, exists_eq_or_imp, hmoves, false_or]

/-- How far a claim has come by its capacity, its conditions and events. -/
structure Classified (claim : Claim) (capacity : Option Nat) (requested : Nat) (events : List Event) (started : Instant)
    (progress : ClaimProgress) : Prop where
  done_iff : progress = .done ↔ capacity = some requested
  failed_iff : (∃ note, progress = .failed note) ↔
    capacity ≠ some requested ∧ ∃ event ∈ events, TellsFailure started event
  inProgress_iff : progress = .inProgress ↔ capacity ≠ some requested ∧ (¬∃ event ∈ events, TellsFailure started event) ∧
    (SaysResizing claim ∨ ∃ event ∈ events, TellsMovement started event)
  pending_iff : progress = .pending ↔ capacity ≠ some requested ∧ (¬∃ event ∈ events, TellsFailure started event) ∧
    ¬(SaysResizing claim ∨ ∃ event ∈ events, TellsMovement started event)
  /-- A failure has the note of the first event that tells of it. -/
  noted : ∀ note, progress = .failed note → ∃ earlier event later, events = earlier ++ event :: later ∧
    TellsFailure started event ∧ (∀ e ∈ earlier, ¬TellsFailure started e) ∧ note = event.note.getD ""

theorem Classified.of_done (h : capacity = some requested) :
    Classified claim capacity requested events started .done where
  done_iff := iff_of_true rfl h
  failed_iff := iff_of_false nofun fun hshort ↦ hshort.1 h
  inProgress_iff := iff_of_false nofun fun hshort ↦ hshort.1 h
  pending_iff := iff_of_false nofun fun hshort ↦ hshort.1 h
  noted := nofun

theorem Classified.of_failure (h : capacity ≠ some requested)
    (hfind : (events.find? fun event ↦ TellsFailure started event) = some event) :
    Classified claim capacity requested events started (.failed (event.note.getD "")) := by
  obtain ⟨hfails, earlier, later, rfl, hearlier⟩ := List.find?_eq_some_iff_append.1 hfind
  have hfailure : ∃ e ∈ earlier ++ event :: later, TellsFailure started e := ⟨event, by simp, of_decide_eq_true hfails⟩
  exact {
    done_iff := iff_of_false nofun h
    failed_iff := iff_of_true ⟨_, rfl⟩ ⟨h, hfailure⟩
    inProgress_iff := iff_of_false nofun fun hnone ↦ hnone.2.1 hfailure
    pending_iff := iff_of_false nofun fun hnone ↦ hnone.2.1 hfailure
    noted := by
      rintro _ ⟨⟩
      exact ⟨earlier, event, later, rfl, of_decide_eq_true hfails, by simpa using hearlier, rfl⟩ }

theorem Classified.of_movement (h : capacity ≠ some requested) (hnone : ¬∃ event ∈ events, TellsFailure started event)
    (hmoves : SaysResizing claim ∨ ∃ event ∈ events, TellsMovement started event) :
    Classified claim capacity requested events started .inProgress where
  done_iff := iff_of_false nofun h
  failed_iff := iff_of_false nofun fun hfailure ↦ hnone hfailure.2
  inProgress_iff := iff_of_true rfl ⟨h, hnone, hmoves⟩
  pending_iff := iff_of_false nofun fun hstill ↦ hstill.2.2 hmoves
  noted := nofun

theorem Classified.of_nothing (h : capacity ≠ some requested) (hnone : ¬∃ event ∈ events, TellsFailure started event)
    (hstill : ¬(SaysResizing claim ∨ ∃ event ∈ events, TellsMovement started event)) :
    Classified claim capacity requested events started .pending where
  done_iff := iff_of_false nofun h
  failed_iff := iff_of_false nofun fun hfailure ↦ hnone hfailure.2
  inProgress_iff := iff_of_false nofun fun hmoves ↦ hstill hmoves.2.2
  pending_iff := iff_of_true rfl ⟨h, hnone, hstill⟩
  noted := nofun

theorem exists_classified (h : capacityBytes claim = .ok capacity) (requested : Nat) (events : List Event)
    (started : Instant) : ∃ progress, claimProgress claim requested events started = .ok progress ∧
      Classified claim capacity requested events started progress := by
  rw [claimProgress, h]
  refine ⟨_, rfl, ?_⟩
  by_cases hdone : capacity = some requested
  · simp only [if_pos hdone]
    exact .of_done hdone
  simp only [if_neg hdone, scan_filter_belongs]
  cases hfind : events.find? fun event ↦ TellsFailure started event with
  | some event => exact .of_failure hdone hfind
  | none =>
    have hnone : ¬∃ event ∈ events, TellsFailure started event := by simpa using hfind
    by_cases htold : ∃ event ∈ events, TellsMovement started event
    · simp only [if_pos htold]
      exact .of_movement hdone hnone (.inr htold)
    by_cases hcondition : claim.isResizing = true
    · simp only [if_neg htold, if_pos hcondition]
      exact .of_movement hdone hnone (.inl (isResizing_iff.1 hcondition))
    · simp only [if_neg htold, if_neg hcondition]
      exact .of_nothing hdone hnone (not_or_intro (hcondition ∘ isResizing_iff.2) htold)

/-- Two claims have come equally far, whatever the notes of their failures. -/
def SameKind (progress progress' : ClaimProgress) : Prop :=
  progress = progress' ∨ ∃ note note', progress = .failed note ∧ progress' = .failed note'

theorem Classified.sameKind {events' : List Event} {progress progress' : ClaimProgress}
    (h : Classified claim capacity requested events started progress)
    (h' : Classified claim capacity requested events' started progress')
    (hfails : (∃ event ∈ events', TellsFailure started event) ↔ ∃ event ∈ events, TellsFailure started event)
    (hmoves : (∃ event ∈ events', TellsMovement started event) ↔ ∃ event ∈ events, TellsMovement started event) :
    SameKind progress progress' := by
  have hfailed := h'.failed_iff
  have hinProgress := h'.inProgress_iff
  have hpending := h'.pending_iff
  rw [hfails, ← h.failed_iff] at hfailed
  rw [hfails, hmoves, ← h.inProgress_iff] at hinProgress
  rw [hfails, hmoves, ← h.pending_iff] at hpending
  cases progress with
  | done => exact .inl (h'.done_iff.2 (h.done_iff.1 rfl)).symm
  | inProgress => exact .inl (hinProgress.2 rfl).symm
  | pending => exact .inl (hpending.2 rfl).symm
  | failed note =>
    obtain ⟨note', hnote⟩ := hfailed.2 ⟨note, rfl⟩
    exact .inr ⟨note, note', rfl, hnote⟩

/-- What events tell does not depend on their order, nor on those that do not count. -/
theorem exists_tells_iff_of_perm {events' : List Event} (hperm : events'.Perm (events ++ added))
    (hadded : ∀ event ∈ added, ¬DatedFrom started event) :
    (∃ event ∈ events', Tells reasons started event) ↔ ∃ event ∈ events, Tells reasons started event := by
  constructor
  · rintro ⟨event, hevent, htells⟩
    rcases List.mem_append.1 (hperm.mem_iff.1 hevent) with hevent | hevent
    · exact ⟨event, hevent, htells⟩
    · exact absurd htells.1 (hadded event hevent)
  · rintro ⟨event, hevent, htells⟩
    exact ⟨event, hperm.mem_iff.2 (List.mem_append_left added hevent), htells⟩

/-- Events that do not count change nothing at all where they are put between others. -/
theorem claimProgress_insert (claim : Claim) (requested : Nat) (before after : List Event)
    (hadded : ∀ event ∈ added, ¬DatedFrom started event) :
    claimProgress claim requested (before ++ added ++ after) started =
      claimProgress claim requested (before ++ after) started := by
  have hnone : added.filter (belongs started) = [] :=
    List.filter_eq_nil_iff.2 fun event hevent ↦ hadded event hevent ∘ belongs_iff.1
  simp only [claimProgress, List.filter_append, hnone, List.append_nil]

/-- The claims that have failed, in their order, each with its note. -/
def failedClaims : List (String × ClaimProgress) → List (String × String)
  | [] => []
  | (name, .failed note) :: results => (name, note) :: failedClaims results
  | _ :: results => failedClaims results

theorem filterMap_failure? (results : List (String × ClaimProgress)) :
    results.filterMap failure? = (failedClaims results).map fun claim ↦ claim.1 ++ ": " ++ claim.2 := by
  fun_induction failedClaims results with
  | case1 => rfl
  | case2 name note results ih => simp [failure?, ih]
  | case3 claim results hother ih =>
    obtain ⟨name, progress⟩ := claim
    cases progress with
    | failed note => exact absurd rfl (hother name note)
    | done | inProgress | pending => rw [List.filterMap_cons_none rfl, ih]

/-- What becomes of a resize in progress, by how far its claims have come. -/
structure Folded (since : Instant) (results : List (String × ClaimProgress)) (state : ResizeState) : Prop where
  failed_iff : (∃ reason, state = .failed reason) ↔
    (∃ claim ∈ results, ∃ note, claim.2 = .failed note) ∧ ∀ claim ∈ results, claim.2 ≠ .inProgress
  named : ∀ reason, state = .failed reason →
    reason = String.intercalate "; " ((failedClaims results).map fun claim ↦ claim.1 ++ ": " ++ claim.2)
  kept : (¬∃ reason, state = .failed reason) → state = .inProgress since

theorem folded_advance (since : Instant) (results : List (String × ClaimProgress)) :
    Folded since results ((ResizeState.inProgress since).advance results) where
  failed_iff := ResizeState.advance_eq_failed_iff
  named := by
    intro reason h
    unfold ResizeState.advance at h
    split at h
    · cases h
    · split at h
      · cases h
      · cases h
        rw [← filterMap_failure?]
  kept := (ResizeState.advance_inProgress since results).resolve_right

/-- How far a claim of a known capacity has come. It is done exactly if it has the requested bytes; otherwise it has
failed exactly if an event that counts tells so; otherwise it is in progress exactly if a condition of it or an event
that counts tells so; otherwise it is pending. Events from before the start, or without a date, change nothing about
that, and the order of events nothing but the note of a failure. A resize in progress has failed exactly if a claim has
and none is in progress, and names each that has in their order; otherwise it stays in progress. -/
theorem claimProgress_classified (h : capacityBytes claim = .ok capacity) (requested : Nat) (events : List Event)
    (started : Instant) : ∃ progress, claimProgress claim requested events started = .ok progress ∧
      Classified claim capacity requested events started progress ∧
      (∀ before added after, events = before ++ after → (∀ event ∈ added, ¬DatedFrom started event) →
        claimProgress claim requested (before ++ added ++ after) started = .ok progress) ∧
      (∀ events' added, events'.Perm (events ++ added) → (∀ event ∈ added, ¬DatedFrom started event) →
        ∃ progress', claimProgress claim requested events' started = .ok progress' ∧ SameKind progress progress') ∧
      ∀ since results, Folded since results ((ResizeState.inProgress since).advance results) := by
  obtain ⟨progress, hprogress, hclassified⟩ := exists_classified h requested events started
  refine ⟨progress, hprogress, hclassified, ?_, ?_, folded_advance⟩
  · rintro before added after rfl hadded
    rw [claimProgress_insert claim requested before after hadded, hprogress]
  · intro events' added hperm hadded
    obtain ⟨progress', hprogress', hclassified'⟩ := exists_classified h requested events' started
    exact ⟨progress', hprogress', hclassified.sameKind hclassified' (exists_tells_iff_of_perm hperm hadded)
      (exists_tells_iff_of_perm hperm hadded)⟩

/-- The resize of the claim begins at noon. -/
private def began : Event := ⟨none, none, some Volume.noon, .empty, none, some "Resizing", none, []⟩

/-- The resize of the claim fails, as its first timestamp tells. -/
private def gaveUp : Event := ⟨some Volume.noon, none, none, .empty, some "no space", some "VolumeResizeFailed", none, []⟩

/-- A failure without a date. -/
private def undated : Event := { gaveUp with firstTime := none, note := some "out of quota" }

/-- A failure that counts is told from one that does not, in any order. -/
theorem claimProgress_classified_growing :
    capacityBytes Volume.growingClaim = .ok (some 1073741824) ∧
      claimProgress Volume.growingClaim 2147483648 [began, gaveUp] Volume.noon = .ok (.failed "no space") ∧
      ∃ progress, claimProgress Volume.growingClaim 2147483648 [undated, gaveUp, began] Volume.noon = .ok progress ∧
        ∃ note, progress = .failed note := by
  have hcapacity : capacityBytes Volume.growingClaim = .ok (some 1073741824) := by decide +kernel
  have hfailed : claimProgress Volume.growingClaim 2147483648 [began, gaveUp] Volume.noon = .ok (.failed "no space") := by
    decide +kernel
  obtain ⟨progress, hprogress, -, -, hperm, -⟩ :=
    claimProgress_classified hcapacity 2147483648 [began, gaveUp] Volume.noon
  obtain ⟨progress', hprogress', hsame⟩ := hperm [undated, gaveUp, began] [undated] (by decide) (by decide)
  cases hprogress.symm.trans hfailed
  refine ⟨hcapacity, hfailed, progress', hprogress', ?_⟩
  rcases hsame with rfl | ⟨_, note, -, rfl⟩
  · exact ⟨_, rfl⟩
  · exact ⟨note, rfl⟩

end ClaimProgress

end GaleraOperator
