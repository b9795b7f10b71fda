import GaleraOperator.Proofs.Volume.Classification
import GaleraOperator.Proofs.Volume.ClusterWrites
import GaleraOperator.Proofs.Volume.Shrinking

/-!
# The time of a start

A pass that starts a resize notes the time to the second, and later passes read from the note since when events count.
What is read is never later than the start, and less than a second earlier. So no event from the start on is lost, and
none counts that is a second older.
-/

namespace GaleraOperator

open Kube Pass

namespace Instant

variable {t u : Instant}

/-- A whole second is reached together with its number. -/
theorem wholeSecond_le_iff : t.wholeSecond ≤ u ↔ t.unixSeconds ≤ u.unixSeconds := by
  have hnano := u.nano_lt
  change t.wholeSecond.rank ≤ u.rank ↔ _
  simp only [rank, wholeSecond, unixSeconds]
  omega

theorem unixSeconds_le_of_le (h : t ≤ u) : t.unixSeconds ≤ u.unixSeconds := by
  have ht := t.nano_lt
  have hu := u.nano_lt
  change t.rank ≤ u.rank at h
  simp only [rank] at h
  simp only [unixSeconds]
  omega

/-- On the way to an instant that is in no leap second, only one that the way starts in can be passed. -/
theorem leapBetween_eq (hleap : t.isLeapSecond = false) :
    t.leapBetween u = 0 ∨ t.leapBetween u = 1 ∧ nanosPerSecond ≤ u.nano := by
  unfold leapBetween
  split
  · cases hu : u.isLeapSecond with
    | false => exact .inl rfl
    | true => exact .inr ⟨rfl, of_decide_eq_true hu⟩
  · rw [hleap, if_neg Bool.false_ne_true, ite_self]
    exact .inl rfl

/-- What lies a second or more before an instant that is in no leap second lies in an earlier second. -/
theorem unixSeconds_lt_of_since (hleap : t.isLeapSecond = false) (h : (nanosPerSecond : Int) ≤ t.since u) :
    u.unixSeconds < t.unixSeconds := by
  have hnano : ¬nanosPerSecond ≤ t.nano := of_decide_eq_false hleap
  have hpassed := leapBetween_eq (u := u) hleap
  simp only [since, nanosPerSecond] at h hnano hpassed
  simp only [unixSeconds]
  omega

end Instant

variable {event : Event} {started t time : Instant}

namespace ClaimProgress

theorem datedFrom_iff (h : event.time? = some t) : DatedFrom started event ↔ started ≤ t := by
  rw [← belongs_iff, belongs, h, Option.any_some, decide_eq_true_eq]

/-- An event counts: what it tells of a claim is not overlooked, wherever it stands among others. If it tells of a
failure, the claim is done or has failed; if it tells of movement, the claim is not pending. -/
def Heeded (started : Instant) (event : Event) : Prop :=
  ∀ claim capacity requested before after, capacityBytes claim = .ok capacity →
    ∃ progress, claimProgress claim requested (before ++ event :: after) started = .ok progress ∧
      (event.reason = some "VolumeResizeFailed" → progress = .done ∨ ∃ note, progress = .failed note) ∧
      (∀ reason ∈ ["Resizing", "ExternalExpanding", "FileSystemResizeRequired"], event.reason = some reason →
        progress ≠ .pending)

/-- An event does not count: claims have come as far as without it, wherever it stands among others. -/
def Ignored (started : Instant) (event : Event) : Prop :=
  ∀ claim requested before after, claimProgress claim requested (before ++ event :: after) started =
    claimProgress claim requested (before ++ after) started

theorem heeded_of_datedFrom (h : DatedFrom started event) : Heeded started event := by
  intro claim capacity requested before after hcapacity
  obtain ⟨progress, hprogress, hclassified⟩ := exists_classified hcapacity requested (before ++ event :: after) started
  have hmem : event ∈ before ++ event :: after := List.mem_append_right before (List.mem_cons_self ..)
  refine ⟨progress, hprogress, fun hreason ↦ ?_, fun reason hmoves hreason hpending ↦ ?_⟩
  · by_cases hdone : capacity = some requested
    · exact .inl (hclassified.done_iff.2 hdone)
    · exact .inr (hclassified.failed_iff.2 ⟨hdone, event, hmem, (tellsFailure_iff h).2 hreason⟩)
  · obtain ⟨-, -, hstill⟩ := hclassified.pending_iff.1 hpending
    exact hstill (.inr ⟨event, hmem, h, reason, hmoves, hreason⟩)

theorem ignored_of_not_datedFrom (h : ¬DatedFrom started event) : Ignored started event := by
  intro claim requested before after
  rw [List.append_cons]
  exact claimProgress_insert claim requested before after (List.forall_mem_singleton.2 h)

/-- An event from the start on counts from the second of the start on. -/
theorem heeded_wholeSecond (h : event.time? = some t) (hle : started ≤ t) : Heeded started.wholeSecond event :=
  heeded_of_datedFrom ((datedFrom_iff h).2 (Instant.wholeSecond_le_iff.2 (Instant.unixSeconds_le_of_le hle)))

/-- An event from a second or more before the start does not. -/
theorem ignored_wholeSecond (h : event.time? = some t) (hleap : started.isLeapSecond = false)
    (hsince : (Instant.nanosPerSecond : Int) ≤ started.since t) : Ignored started.wholeSecond event := by
  refine ignored_of_not_datedFrom fun hdated ↦ ?_
  have hle := Instant.wholeSecond_le_iff.1 ((datedFrom_iff h).1 hdated)
  have hlt := Instant.unixSeconds_lt_of_since hleap hsince
  omega

end ClaimProgress

namespace Volume

variable {σ α β : Type} {m m' : σ} {es fs : List Exchange} {settings : Settings} {ns name configured : String}
  {c : Cluster} {claims : List Claim} {requested actual : Nat}

/-- The time was asked, and then its note was written onto a cluster. -/
def NotedAt (σ : Type) (settings : Settings) (ns name : String) (time : Instant) (es : List Exchange) : Prop :=
  ∃ (before note after : List Exchange) (r : Except Failure Unit) (m m' : σ),
    es = before ++ ⟨.now, time⟩ :: (note ++ after) ∧
      ((ClusterWrite.mark ns name time.toSecondsText).pass settings).Runs m note r m'

theorem NotedAt.append_left (h : NotedAt σ settings ns name time es) (fs : List Exchange) :
    NotedAt σ settings ns name time (fs ++ es) := by
  obtain ⟨before, note, after, r, m, m', rfl, hrun⟩ := h
  exact ⟨fs ++ before, note, after, r, m, m', (List.append_assoc ..).symm, hrun⟩

theorem NotedAt.append_right (h : NotedAt σ settings ns name time es) (fs : List Exchange) :
    NotedAt σ settings ns name time (es ++ fs) := by
  obtain ⟨before, note, after, r, m, m', rfl, hrun⟩ := h
  exact ⟨before, note, after ++ fs, r, m, m', by simp only [List.append_assoc, List.cons_append], hrun⟩

/-- Whenever exchanges ask the time, its note is written next. -/
def Notes (σ : Type) (settings : Settings) (ns name : String) (es : List Exchange) : Prop :=
  ∀ time, ⟨.now, time⟩ ∈ es → NotedAt σ settings ns name time es

theorem Notes.nil : Notes σ settings ns name [] := fun _ h ↦ (List.not_mem_nil h).elim

theorem Notes.append (h : Notes σ settings ns name es) (h' : Notes σ settings ns name fs) :
    Notes σ settings ns name (es ++ fs) := by
  intro time hmem
  rcases List.mem_append.1 hmem with hmem | hmem
  · exact (h time hmem).append_right fs
  · exact (h' time hmem).append_left es

theorem Notes.singleton {x : Exchange} (h : x.effect ≠ .now) : Notes σ settings ns name [x] := by
  intro time hmem
  obtain rfl := List.mem_singleton.1 hmem
  exact absurd rfl h

theorem Notes.cons {x : Exchange} (h : x.effect ≠ .now) (hes : Notes σ settings ns name es) :
    Notes σ settings ns name (x :: es) :=
  (Notes.singleton h).append hes

/-- A pass asks the time only to note it on a cluster. -/
def NotesTimes (settings : Settings) (ns name : String) (p : Pass σ α) : Prop :=
  ∀ m es r m', p.Runs m es r m' → Notes σ settings ns name es

namespace NotesTimes

variable {p : Pass σ α} {f : α → Pass σ β}

theorem bind (hp : NotesTimes settings ns name p) (hf : ∀ a, NotesTimes settings ns name (f a)) :
    NotesTimes settings ns name (p >>= f) := by
  intro m es r m' h
  rcases runs_bind.1 h with ⟨es₁, es₂, a, m₁, rfl, hfirst, hsecond⟩ | ⟨e, rfl, hfirst⟩
  · exact (hp _ _ _ _ hfirst).append (hf a _ _ _ _ hsecond)
  · exact hp _ _ _ _ hfirst

theorem orFail (x : Except Failure α) : NotesTimes settings ns name (orFail x : Pass σ α) := by
  intro m es r m' h
  obtain ⟨rfl, -, -⟩ := runs_orFail.1 h
  exact .nil

theorem pure (a : α) : NotesTimes settings ns name (pure a : Pass σ α) := orFail (.ok a)

theorem throw (e : Failure) : NotesTimes settings ns name (throw e : Pass σ α) := orFail (.error e)

theorem orOverflow (x : Except Overflow α) : NotesTimes settings ns name (orOverflow x : Pass σ α) := by
  intro m es r m' h
  obtain ⟨rfl, -, -⟩ := runs_orOverflow.1 h
  exact .nil

theorem call (c : Call) : NotesTimes settings ns name (call c : Pass σ c.Answer) := by
  intro m es r m' h
  obtain ⟨reply, rfl, -, -⟩ := runs_call.1 h
  exact .singleton nofun

theorem ask {e : Effect} (he : e ≠ .now) : NotesTimes settings ns name (ask e : Pass σ e.Reply) := by
  intro m es r m' h
  obtain ⟨reply, rfl, -, -⟩ := runs_ask.1 h
  exact .singleton he

theorem mapM {f : α → Pass σ β} (hf : ∀ a, NotesTimes settings ns name (f a)) (xs : List α) :
    NotesTimes settings ns name (xs.mapM f) := by
  induction xs with
  | nil => exact pure []
  | cons x xs ih =>
    rw [List.mapM_cons]
    exact (hf x).bind fun b ↦ ih.bind fun bs ↦ pure (b :: bs)

theorem attempt (hp : NotesTimes settings ns name p) : NotesTimes settings ns name (attempt p) := by
  intro m es r m' h
  rcases runs_attempt.1 h with ⟨_, _, h⟩ | ⟨_, _, h⟩ | ⟨_, _, h⟩ <;> exact hp _ _ _ _ h

theorem lost (hp : NotesTimes settings ns name p) (h : Lost p m es m') : Notes σ settings ns name es := by
  induction h with
  | none m => exact .nil
  | next past attempt conflict rest ih => exact (hp _ _ _ _ attempt).append (ih.cons nofun)

theorem retryOnConflict {limit : UInt32} (hp : NotesTimes settings ns name p) :
    NotesTimes settings ns name (Pass.retryOnConflict limit p) := by
  intro m es r m' h
  obtain ⟨before, last, m₁, rfl, hlost, hlast⟩ := Runs.retryOnConflict h
  exact (hp.lost hlost).append (hp _ _ _ _ hlast)

end NotesTimes

theorem notesTimes_changeCluster {ns' name' : String} {change : Cluster → Option Cluster} :
    NotesTimes settings ns name (changeCluster settings ns' name' change : Pass σ Unit) := by
  have hfetch : NotesTimes settings ns name (fetchCluster ns' name' : Pass σ Cluster) := by
    refine .bind (.call _) fun latest? ↦ ?_
    cases latest? with
    | none => exact .throw _
    | some latest => exact .pure latest
  refine .retryOnConflict (.bind hfetch fun latest ↦ ?_)
  cases change latest with
  | none => exact .pure ()
  | some new => exact .bind (.call _) fun _ ↦ .pure ()

theorem notesTimes_rollBack (reason : String) :
    NotesTimes settings ns name (rollBack settings ns c configured reason : Pass σ α) :=
  .bind (.ask nofun) fun _ ↦ .bind notesTimes_changeCluster fun _ ↦
    .bind notesTimes_changeCluster fun _ ↦ .throw _

theorem notesTimes_followUp {since : Instant} :
    NotesTimes settings ns name (followUp settings ns c claims configured requested since : Pass σ _) := by
  refine .bind (.mapM (fun claim ↦ .bind (.call _) fun _ ↦ .bind (.orFail _) fun _ ↦ .pure _) claims) fun progress ↦ ?_
  split
  · exact notesTimes_rollBack _
  · split
    · exact .bind (.call _) fun _ ↦ .bind notesTimes_changeCluster fun _ ↦ .bind (.ask nofun) fun _ ↦ .pure _
    · exact .pure _

theorem notesTimes_growClaim (claim : Claim) :
    NotesTimes settings ns name (growClaim settings ns c configured requested claim : Pass σ Bool) := by
  refine .bind (.orFail _) fun capacity ↦ ?_
  split
  · exact .pure _
  · refine .bind (.orOverflow _) fun target ↦ .bind (.attempt (.call _)) fun reply ↦ ?_
    rcases reply with e | answer
    · dsimp only
      split
      · exact notesTimes_rollBack _
      · exact .throw _
    · exact .pure _

/-- Starting a resize, what follows the time is the write of its note. -/
theorem notesTimes_start :
    NotesTimes settings ns c.name (start settings ns c claims configured requested : Pass σ _) := by
  intro m es r m' h time hmem
  have hgrow : ∀ _ : Unit, NotesTimes settings ns c.name (do
      let asked ← claims.mapM (growClaim settings ns c configured requested)
      measure ns c.name (.resized "started")
      return .started (asked.count true) : Pass σ ResizeOutcome) :=
    fun _ ↦ .bind (.mapM notesTimes_growClaim claims) fun _ ↦ .bind (.ask nofun) fun _ ↦ .pure _
  obtain ⟨first, rest, rfl, hrest⟩ := runs_ask_bind.1 h
  rcases List.mem_cons.1 hmem with heq | hmem
  · obtain rfl : time = first := by
      cases heq
      rfl
    rcases runs_bind.1 hrest with ⟨note, after, _, m₁, rfl, hnote, -⟩ | ⟨e, -, hnote⟩
    · exact ⟨[], note, after, _, m, m₁, rfl, hnote⟩
    · exact ⟨[], rest, [], _, m, m', by rw [List.append_nil, List.nil_append], hnote⟩
  · exact (NotesTimes.bind notesTimes_changeCluster hgrow _ _ _ _ hrest time hmem).append_left [⟨.now, first⟩]

theorem notesTimes_decideOn :
    NotesTimes settings ns c.name (decideOn settings ns c claims actual configured : Pass σ _) := by
  refine .bind (.orFail _) fun configuredBytes ↦ .bind (.orFail _) fun requested ↦ ?_
  split
  · exact .throw _
  · exact notesTimes_followUp
  · split
    · exact .bind notesTimes_changeCluster fun _ ↦ .bind (.orOverflow _) fun _ ↦ .bind (.orOverflow _) fun _ ↦
        .throw _
    · split
      · exact .pure _
      · exact notesTimes_start

theorem notesTimes_find : NotesTimes settings ns name (find ns c : Pass σ Volumes) := by
  refine .bind (.call _) fun held ↦ ?_
  dsimp only
  split
  · exact .pure _
  · exact .bind (.call _) fun pods ↦ .pure _

theorem notesTimes_reconcile (hns : c.metadata.ns? = some ns) :
    NotesTimes settings ns c.name (reconcile settings c : Pass σ _) := by
  simp only [reconcile, hns]
  refine .bind notesTimes_find fun volumes ↦ ?_
  split
  · exact .pure _
  · refine .bind (.orFail _) fun least ↦ ?_
    rcases least with - | actual
    · exact .pure _
    · refine .bind (.call _) fun set? ↦ ?_
      rcases set? with - | set
      · exact .pure _
      · dsimp only
        cases set.templateRequest? dataVolume with
        | none => exact .pure _
        | some configured => exact notesTimes_decideOn

/-- Every cluster that is sent for a note has it. -/
theorem resizeMark?_of_note {text : String} {r : Except Failure Unit}
    (h : (changeCluster settings ns name (markStarted text)).Runs m es r m') :
    ∀ ns' written, .replaceCluster ns' written ∈ calls es → written.resizeMark? = some text := by
  have hasks : Asks (fun call ↦ ∀ ns' written, call = .replaceCluster ns' written → written.resizeMark? = some text)
      (changeCluster settings ns name (markStarted text) : Pass σ Unit) := by
    have hread : ∀ ns' written, Call.getCluster ns name = .replaceCluster ns' written →
        written.resizeMark? = some text := by
      rintro _ _ ⟨⟩
    refine Asks.retryOnConflict (Asks.bind (asks_fetchCluster hread) fun latest ↦ ?_)
    have hwritten : ∀ ns' written, Call.replaceCluster ns (latest.withResizeMark text) = .replaceCluster ns' written →
        written.resizeMark? = some text := by
      rintro _ _ ⟨⟩
      exact Cluster.resizeMark?_withResizeMark latest text
    exact Asks.bind (Asks.call hwritten) fun _ ↦ Asks.pure ()
  exact fun ns' written hmem ↦ hasks _ _ _ _ h _ hmem ns' written rfl

/-- From a note of a time of the years 0 to 9999 outside of leap seconds the second of it is read. -/
theorem ofCluster_of_resizeMark? {marked : Cluster} (h : marked.resizeMark? = some time.toSecondsText)
    (hyear : 0 ≤ time.year ∧ time.year ≤ 9999) (hleap : time.isLeapSecond = false) :
    ResizeState.ofCluster marked = .ok (.inProgress time.wholeSecond) := by
  obtain ⟨read, hread, hwhole⟩ := Instant.ofRfc3339_toSecondsText hyear
  obtain rfl := hwhole hleap
  simp only [ResizeState.ofCluster, h, hread]

/-- A pass asks the time only to start a resize, and writes it onto the cluster next. From every cluster that it sends
for that, later passes read the second of the start, whatever else has changed about the cluster meanwhile, and it is
since then that they look for events. So all events from the start on count, and none does that is a second older. -/
theorem reconcile_notes_start {r : Except Failure ResizeOutcome} (h : (reconcile settings c).Runs m es r m')
    (hclock : ⟨.now, time⟩ ∈ es) (hyear : 0 ≤ time.year ∧ time.year ≤ 9999) (hleap : time.isLeapSecond = false) :
    ∃ ns, c.metadata.ns? = some ns ∧
      (∃ (before note after : List Exchange) (r₁ : Except Failure Unit) (m₁ m₂ : σ),
        es = before ++ ⟨.now, time⟩ :: (note ++ after) ∧
        ((ClusterWrite.mark ns c.name time.toSecondsText).pass settings).Runs m₁ note r₁ m₂ ∧
        ∀ ns' written, .replaceCluster ns' written ∈ calls note → written.resizeMark? = some time.toSecondsText) ∧
      ∀ marked : Cluster, marked.resizeMark? = some time.toSecondsText →
        ResizeState.ofCluster marked = .ok (.inProgress time.wholeSecond) ∧
        (∀ settings' ns' claims actual configured,
          (decideOn settings' ns' marked claims actual configured : Pass σ ResizeOutcome) = (do
            let _ ← orFail (Quantity.alignedBytes configured)
            let requested ← orFail (Quantity.alignedBytes marked.requestedStorage)
            followUp settings' ns' marked claims configured requested time.wholeSecond)) ∧
        ∀ event t, event.time? = some t → (time ≤ t → ClaimProgress.Heeded time.wholeSecond event) ∧
          ((Instant.nanosPerSecond : Int) ≤ time.since t → ClaimProgress.Ignored time.wholeSecond event) := by
  cases hns : c.metadata.ns? with
  | none =>
    simp only [reconcile, hns] at h
    obtain ⟨rfl, -, -⟩ := runs_fail.1 h
    cases hclock
  | some ns =>
    obtain ⟨before, note, after, r₁, m₁, m₂, hes, hnote⟩ := notesTimes_reconcile hns _ _ _ _ h time hclock
    refine ⟨ns, rfl, ⟨before, note, after, r₁, m₁, m₂, hes, hnote, resizeMark?_of_note hnote⟩, fun marked hmark ↦ ?_⟩
    have hread := ofCluster_of_resizeMark? hmark hyear hleap
    refine ⟨hread, fun settings' ns' claims actual configured ↦ by simp only [decideOn, hread], fun event t ht ↦ ?_⟩
    exact ⟨ClaimProgress.heeded_wholeSecond ht, ClaimProgress.ignored_wholeSecond ht hleap⟩

/-- The only pod's claim is told to have failed at some time. -/
private def failureAt (t : Instant) : Event :=
  ⟨none, none, some t, ObjectMeta.empty, none, some "VolumeResizeFailed", none, []⟩

/-- The resize that is started at noon heeds an event of noon, and none of a second before. -/
theorem reconcile_notes_start_at_noon : ∃ es r, (reconcile .standard growing).Runs () es r () ∧ ⟨.now, noon⟩ ∈ es ∧
    ResizeState.ofCluster growingMarked = .ok (.inProgress noon) ∧
    ClaimProgress.Heeded noon (failureAt noon) ∧
    ClaimProgress.Ignored noon (failureAt { noon with second := 43199, second_lt := by decide }) := by
  have hcapacity : capacityBytes growingClaim = .ok (some 1073741824) := rfl
  have htarget : Quantity.ofBytes 2147483648 = .ok "2Gi" := rfl
  have hclaim : (growClaim .standard "prod" growing "1Gi" 2147483648 growingClaim : Pass Unit Bool).Runs () _
      (.ok true) () :=
    runs_growClaim_ok hcapacity (by decide) htarget
  have hgrow : ([growingClaim].mapM (growClaim .standard "prod" growing "1Gi" 2147483648) :
      Pass Unit (List Bool)).Runs () _ (.ok [true]) () :=
    runs_mapM_cons.2 (.inl ⟨_, [], true, (), .ok [], rfl, hclaim, runs_mapM_nil.2 ⟨rfl, rfl, rfl⟩, rfl⟩)
  have hrun := runs_reconcile_growing (runs_bind.2 (.inl ⟨_, _, [true], (), rfl, hgrow,
    runs_ask_bind.2 ⟨(), [], rfl, runs_pure.2 ⟨rfl, rfl, rfl⟩⟩⟩))
  have hclock {es : List Exchange} : ⟨.now, noon⟩ ∈ growingOpening ++ es :=
    List.mem_append_left _ (by simp [growingOpening])
  obtain ⟨ns, -, -, hmarked⟩ := reconcile_notes_start hrun hclock (by decide +kernel) (by decide)
  obtain ⟨hread, -, hevents⟩ := hmarked growingMarked (by decide +kernel)
  refine ⟨_, _, hrun, hclock, hread, ?_, ?_⟩
  · exact (hevents _ _ rfl).1 (by decide)
  · exact (hevents _ _ rfl).2 (by decide)

end Volume

end GaleraOperator
