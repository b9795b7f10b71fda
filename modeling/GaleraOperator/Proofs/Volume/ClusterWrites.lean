import GaleraOperator.Proofs.ClusterWrite
import GaleraOperator.Proofs.Volume.Reconcile

/-!
# The writes of a pass over volumes

What a pass over volumes asks of the server is about other things than clusters, or it belongs to one of its writes of
its cluster: of the note of a resize or, when a resize is given up or refused, of the requested storage. A pass comes to
such a verdict only if it has written the storage, it writes it once, and nothing but the note after it.
-/

namespace GaleraOperator

open Pass

/-- Whether a call is about clusters. -/
def Call.concernsClusters : Call → Bool
  | .getCluster .. | .replaceCluster .. | .replaceClusterStatus .. => true
  | _ => false

variable {σ α β : Type} {m m' : σ} {es fs : List Exchange} {settings : Settings} {ns name configured : String}

/-- Exchanges that are about other things than clusters, or make up writes of clusters. -/
inductive Woven (σ : Type) (settings : Settings) (P : ClusterWrite → Prop) : List Exchange → Prop where
  | nil : Woven σ settings P []
  | other {x : Exchange} {es : List Exchange} (elsewhere : ∀ call ∈ x.call?, call.concernsClusters = false)
      (rest : Woven σ settings P es) : Woven σ settings P (x :: es)
  | write {op : ClusterWrite} {m m' : σ} {es fs : List Exchange} {r : Except Failure Unit} (allowed : P op)
      (run : (op.pass settings).Runs m es r m') (rest : Woven σ settings P fs) : Woven σ settings P (es ++ fs)

namespace Woven

variable {P Q : ClusterWrite → Prop}

theorem append (h : Woven σ settings P es) (h' : Woven σ settings P fs) : Woven σ settings P (es ++ fs) := by
  induction h with
  | nil => exact h'
  | other elsewhere rest ih => exact .other elsewhere ih
  | write allowed run rest ih =>
    rw [List.append_assoc]
    exact .write allowed run ih

theorem mono (h : Woven σ settings P es) (hPQ : ∀ op, P op → Q op) : Woven σ settings Q es := by
  induction h with
  | nil => exact .nil
  | other elsewhere rest ih => exact .other elsewhere ih
  | write allowed run rest ih => exact .write (hPQ _ allowed) run ih

/-- The exchanges of a single write. -/
theorem of_pass {op : ClusterWrite} {r : Except Failure Unit} (allowed : P op)
    (run : (op.pass settings).Runs m es r m') : Woven σ settings P es := by
  rw [← List.append_nil es]
  exact .write allowed run .nil

theorem of_calls (h : ∀ call ∈ calls es, call.concernsClusters = false) : Woven σ settings P es := by
  induction es with
  | nil => exact .nil
  | cons x es ih =>
    rw [calls_cons] at h
    refine .other (fun call hcall ↦ h call ?_) (ih fun call hcall ↦ h call (List.mem_append_right _ hcall))
    exact List.mem_append_left _ (Option.mem_toList.2 hcall)

end Woven

/-- A pass has come to a verdict on a resize by itself: no call was answered with it. -/
def IsVerdict (es : List Exchange) (r : Except Failure α) : Prop :=
  ∃ f, r = .error f ∧ f.isVerdict = true ∧ ∀ (c : Call) (e : Error), ⟨.call c, .error e⟩ ∈ es → f ≠ .error e

namespace IsVerdict

theorem mono {f : Failure} (h : IsVerdict (α := α) fs (.error f)) (hsub : es ⊆ fs) :
    IsVerdict (α := β) es (.error f) := by
  obtain ⟨_, hf, hverdict, hown⟩ := h
  cases hf
  exact ⟨f, rfl, hverdict, fun c e hmem ↦ hown c e (hsub hmem)⟩

end IsVerdict

theorem not_isVerdict_ok {a : α} : ¬IsVerdict es (.ok a) := by
  rintro ⟨_, hr, -⟩
  cases hr

theorem not_isVerdict_of_plain {f : Failure} (h : f.isVerdict = false) : ¬IsVerdict (α := α) es (.error f) := by
  rintro ⟨_, hf, hverdict, -⟩
  cases hf
  rw [h] at hverdict
  cases hverdict

/-- An error that a call was answered with is no verdict of the pass. -/
theorem not_isVerdict_of_mem {c : Call} {e : Error} (h : ⟨.call c, .error e⟩ ∈ es) :
    ¬IsVerdict (α := α) es (.error (.error e)) := by
  rintro ⟨_, hf, -, hown⟩
  cases hf
  exact hown c e h rfl

namespace Volume

/-- Whether a write is one of the note of a resize on a cluster. -/
def IsNoteWrite (ns name : String) (op : ClusterWrite) : Prop :=
  (∃ time, op = .mark ns name time) ∨ op = .unmark ns name

/-- How the writes of a pass over volumes may go: it writes notes only, and comes to no verdict; or it writes the
storage at some point, and fails. A verdict is told only if that write ended well. -/
inductive Course (σ : Type) (settings : Settings) (ns name configured : String) :
    List Exchange → Except Failure α → Prop where
  | noted {es : List Exchange} {r : Except Failure α} (notes : Woven σ settings (IsNoteWrite ns name) es)
      (undecided : ¬IsVerdict es r) : Course σ settings ns name configured es r
  | reset {before during after : List Exchange} {f : Failure} {r' : Except Failure Unit} {m m' : σ}
      (notes : Woven σ settings (IsNoteWrite ns name) before)
      (run : ((ClusterWrite.storage ns name configured).pass settings).Runs m during r' m')
      (later : Woven σ settings (IsNoteWrite ns name) after)
      (settled : IsVerdict (α := α) (before ++ (during ++ after)) (.error f) → r' = .ok ()) :
      Course σ settings ns name configured (before ++ (during ++ after)) (.error f)

/-- Notes that are written before change nothing about the course. -/
theorem Course.prepend {r : Except Failure α} (hnotes : Woven σ settings (IsNoteWrite ns name) fs)
    (h : Course σ settings ns name configured es r) : Course σ settings ns name configured (fs ++ es) r := by
  cases h with
  | noted notes undecided =>
    refine .noted (hnotes.append notes) ?_
    rintro ⟨f, rfl, hverdict, hown⟩
    exact undecided ⟨f, rfl, hverdict, fun c e hmem ↦ hown c e (List.mem_append_right fs hmem)⟩
  | reset notes run later settled =>
    rw [← List.append_assoc]
    refine .reset (hnotes.append notes) run later fun hverdict ↦ settled (hverdict.mono ?_)
    rw [List.append_assoc]
    exact List.subset_append_right ..

theorem Course.error {f : Failure} (h : Course (α := α) σ settings ns name configured es (.error f)) :
    Course (α := β) σ settings ns name configured es (.error f) := by
  cases h with
  | noted notes undecided => exact .noted notes fun hverdict ↦ undecided (hverdict.mono (List.Subset.refl _))
  | reset notes run later settled =>
    exact .reset notes run later fun hverdict ↦ settled (hverdict.mono (List.Subset.refl _))

/-- Everything that a pass over volumes writes is a note or the storage. -/
theorem Course.woven {r : Except Failure α} (h : Course σ settings ns name configured es r) :
    Woven σ settings (fun op ↦ IsNoteWrite ns name op ∨ op = .storage ns name configured) es := by
  cases h with
  | noted notes undecided => exact notes.mono fun _ ↦ .inl
  | reset notes run later settled =>
    exact (notes.mono fun _ ↦ .inl).append (.write (.inr rfl) run (later.mono fun _ ↦ .inl))

/-- The writes of a pass go such a course in every run. -/
def Courses (settings : Settings) (ns name configured : String) (p : Pass σ α) : Prop :=
  ∀ m es r m', p.Runs m es r m' → Course σ settings ns name configured es r

namespace Courses

variable {p : Pass σ α} {f : α → Pass σ β}

theorem bind (hp : Courses settings ns name configured p) (hf : ∀ a, Courses settings ns name configured (f a)) :
    Courses settings ns name configured (p >>= f) := by
  intro m es r m' h
  rcases runs_bind.1 h with ⟨es₁, es₂, a, m₁, rfl, hfirst, hsecond⟩ | ⟨e, rfl, hfirst⟩
  · have hcourse := hp _ _ _ _ hfirst
    -- A pass that has written the storage does not end well, so only notes were written.
    generalize hok : (.ok a : Except Failure α) = r₁ at hcourse
    cases hcourse with
    | noted notes undecided => exact (hf a _ _ _ _ hsecond).prepend notes
    | reset => cases hok
  · exact (hp _ _ _ _ hfirst).error

/-- What asks nothing of clusters and comes to no verdict. -/
theorem of_asks (hasks : Asks (fun call ↦ call.concernsClusters = false) p)
    (hundecided : ∀ m es r m', p.Runs m es r m' → ¬IsVerdict es r) : Courses settings ns name configured p :=
  fun m es r m' h ↦ .noted (.of_calls (hasks m es r m' h)) (hundecided m es r m' h)

theorem pure (a : α) : Courses settings ns name configured (pure a : Pass σ α) := by
  refine of_asks (.pure a) fun m es r m' h ↦ ?_
  obtain ⟨-, rfl, -⟩ := runs_pure.1 h
  exact not_isVerdict_ok

theorem throw {f : Failure} (hf : f.isVerdict = false) :
    Courses settings ns name configured (throw f : Pass σ α) := by
  intro m es r m' h
  obtain ⟨rfl, rfl, -⟩ := runs_throw.1 h
  exact .noted .nil (not_isVerdict_of_plain hf)

theorem orFail {x : Except Failure α} (hx : ∀ f, x = .error f → f.isVerdict = false) :
    Courses settings ns name configured (orFail x : Pass σ α) := by
  cases x with
  | ok a => exact pure a
  | error f => exact throw (hx f rfl)

theorem orOverflow (x : Except Overflow α) : Courses settings ns name configured (orOverflow x : Pass σ α) := by
  cases x with
  | ok a => exact pure a
  | error o => exact throw rfl

theorem call {c : Call} (hc : c.concernsClusters = false) :
    Courses settings ns name configured (call c : Pass σ c.Answer) := by
  refine of_asks (.call hc) fun m es r m' h ↦ ?_
  obtain ⟨e | a, rfl, rfl, -⟩ := runs_call.1 h
  · exact not_isVerdict_of_mem (List.mem_singleton_self _)
  · exact not_isVerdict_ok

theorem aside {e : Effect} (he : ∀ reply, Exchange.call? ⟨e, reply⟩ = none) :
    Courses settings ns name configured (ask e : Pass σ e.Reply) := by
  refine of_asks (.aside he) fun m es r m' h ↦ ?_
  obtain ⟨reply, -, rfl, -⟩ := runs_ask.1 h
  exact not_isVerdict_ok

theorem mapM {f : α → Pass σ β} (hf : ∀ a, Courses settings ns name configured (f a)) (xs : List α) :
    Courses settings ns name configured (xs.mapM f) := by
  induction xs with
  | nil => exact pure []
  | cons x xs ih =>
    rw [List.mapM_cons]
    exact (hf x).bind fun b ↦ ih.bind fun bs ↦ pure (b :: bs)

end Courses

/-- Changing a cluster fails with what a call was answered with, or because there is no such cluster. -/
theorem not_isVerdict_changeCluster {change : Cluster → Option Cluster} {r : Except Failure Unit}
    (h : (changeCluster settings ns name change).Runs m es r m') : ¬IsVerdict es r := by
  obtain ⟨lost, last, m₁, rfl, -, hlast⟩ := Runs.retryOnConflict h
  rintro ⟨f, rfl, hverdict, hown⟩
  have hlastVerdict : IsVerdict (α := Unit) last (.error f) :=
    ⟨f, rfl, hverdict, fun c e hmem ↦ hown c e (List.mem_append_right lost hmem)⟩
  have hfetch {es : List Exchange} {m₂ : σ} (h : (fetchCluster ns name).Runs m₁ es (.error f) m₂) :
      ¬IsVerdict (α := Unit) es (.error f) := by
    obtain ⟨-, reply, rfl, ⟨e, rfl, hr⟩ | ⟨-, what, hr⟩ | ⟨_, -, hr⟩⟩ := runs_fetchCluster h <;> cases hr
    · exact not_isVerdict_of_mem (List.mem_singleton_self _)
    · exact not_isVerdict_of_plain rfl
  rcases runs_bind.1 hlast with ⟨es₁, es₂, latest, m₂, rfl, -, hrest⟩ | ⟨_, hr, hfirst⟩
  · cases hchange : change latest with
    | none =>
      simp only [hchange] at hrest
      obtain ⟨-, hr, -⟩ := runs_pure.1 hrest
      cases hr
    | some new =>
      simp only [hchange] at hrest
      rcases runs_call_bind.1 hrest with ⟨e, rfl, hr, -⟩ | ⟨answer, rest, rfl, hend⟩
      · cases hr
        exact not_isVerdict_of_mem (List.mem_append_right _ (List.mem_singleton_self _)) hlastVerdict
      · obtain ⟨-, hr, -⟩ := runs_pure.1 hend
        cases hr
  · cases hr
    exact hfetch hfirst hlastVerdict

variable {c : Cluster} {claims : List Claim} {requested actual : Nat}

open Kube

theorem courses_note {op : ClusterWrite} {change : Cluster → Option Cluster} (hnote : IsNoteWrite ns name op)
    (hpass : op.pass settings = (changeCluster settings ns name change : Pass σ Unit)) :
    Courses settings ns name configured (changeCluster settings ns name change : Pass σ Unit) := by
  intro m es r m' h
  have hrun : (op.pass settings).Runs m es r m' := by rwa [hpass]
  exact .noted (.of_pass hnote hrun) (not_isVerdict_changeCluster h)

theorem courses_markStarted (time : String) :
    Courses settings ns name configured (changeCluster settings ns name (markStarted time) : Pass σ Unit) :=
  courses_note (.inl ⟨time, rfl⟩) rfl

theorem courses_markEnded :
    Courses settings ns name configured (changeCluster settings ns name markEnded : Pass σ Unit) :=
  courses_note (.inr rfl) rfl

/-- A course that begins with writing the storage. -/
theorem Course.of_storage {f : Failure} {r' : Except Failure Unit}
    (run : ((ClusterWrite.storage ns name configured).pass settings).Runs m es r' m')
    (later : Woven σ settings (IsNoteWrite ns name) fs)
    (settled : IsVerdict (α := α) (es ++ fs) (.error f) → r' = .ok ()) :
    Course (α := α) σ settings ns name configured (es ++ fs) (.error f) := by
  rw [← List.nil_append (es ++ fs)] at settled ⊢
  exact .reset .nil run later settled

/-- A pass that begins by writing the storage and then fails in any case comes to a verdict only if the write ended
well. -/
theorem courses_setStorage {p : Pass σ α}
    (hfails : ∀ m es r m', p.Runs m es r m' → Woven σ settings (IsNoteWrite ns name) es ∧ ∃ f, r = .error f) :
    Courses settings ns name configured (changeCluster settings ns name (setStorage configured) >>= fun _ ↦ p) := by
  intro m es r m' h
  rcases runs_bind.1 h with ⟨es₁, es₂, _, m₁, rfl, hstorage, hrest⟩ | ⟨f, rfl, hstorage⟩
  · obtain ⟨hnotes, f, rfl⟩ := hfails _ _ _ _ hrest
    exact .of_storage hstorage hnotes fun _ ↦ rfl
  · rw [← List.append_nil es]
    refine .of_storage hstorage .nil fun hverdict ↦ ?_
    rw [List.append_nil] at hverdict
    exact absurd (hverdict.mono (List.Subset.refl _)) (not_isVerdict_changeCluster hstorage)

theorem courses_rollBack (reason : String) :
    Courses settings ns c.name configured (rollBack settings ns c configured reason : Pass σ α) := by
  refine .bind (.aside fun _ ↦ rfl) fun _ ↦ courses_setStorage fun m es r m' h ↦ ?_
  have hnote : IsNoteWrite ns c.name (.unmark ns c.name) := .inr rfl
  rcases runs_bind.1 h with ⟨es₁, es₂, _, m₁, rfl, hmark, hfail⟩ | ⟨f, rfl, hmark⟩
  · obtain ⟨rfl, rfl, -⟩ := runs_fail.1 hfail
    exact ⟨.write hnote hmark .nil, _, rfl⟩
  · exact ⟨.of_pass hnote hmark, f, rfl⟩

theorem courses_refuseShrink :
    Courses settings ns c.name configured (refuseShrink settings ns c configured requested actual : Pass σ _) := by
  refine courses_setStorage fun m es r m' h ↦ ?_
  rcases runs_orOverflow_bind.1 h with ⟨o, -, rfl, rfl, -⟩ | ⟨requestedText, -, hactual⟩
  · exact ⟨.nil, _, rfl⟩
  rcases runs_orOverflow_bind.1 hactual with ⟨o, -, rfl, rfl, -⟩ | ⟨actualText, -, hfail⟩
  · exact ⟨.nil, _, rfl⟩
  obtain ⟨rfl, rfl, -⟩ := runs_fail.1 hfail
  exact ⟨.nil, _, rfl⟩

theorem courses_observeClaim {since : Instant} (claim : Claim) :
    Courses settings ns name configured (observeClaim ns requested since claim : Pass σ _) := by
  refine .bind (.call rfl) fun events ↦ .bind (.orFail fun f hf ↦ ?_) fun progress ↦ .pure _
  unfold claimProgress at hf
  cases hcapacity : capacityBytes claim <;> rw [hcapacity] at hf <;> cases hf
  exact not_isVerdict_of_capacityBytes hcapacity

theorem courses_followUp {since : Instant} :
    Courses settings ns c.name configured (followUp settings ns c claims configured requested since : Pass σ _) := by
  refine .bind (.mapM courses_observeClaim claims) fun progress ↦ ?_
  split
  · exact courses_rollBack _
  · split
    · exact .bind (.call rfl) fun _ ↦ .bind courses_markEnded fun _ ↦ .bind (.aside fun _ ↦ rfl) fun _ ↦ .pure _
    · exact .pure _

theorem courses_growClaim (claim : Claim) :
    Courses settings ns c.name configured (growClaim settings ns c configured requested claim : Pass σ Bool) := by
  refine .bind (.orFail fun f hf ↦ not_isVerdict_of_capacityBytes hf) fun capacity ↦ ?_
  split
  · exact .pure _
  · refine .bind (.orOverflow _) fun target m es r m' h ↦ ?_
    obtain ⟨reply, rest, rfl, hrest⟩ := runs_attempt_call_bind.1 h
    have hasked : Woven σ settings (IsNoteWrite ns c.name)
        [⟨.call (.replaceClaim ns (claim.withRequest target)), reply⟩] := .other (by rintro _ ⟨⟩; rfl) .nil
    rcases reply with e | answer
    · by_cases hhard : isHardFailure e = true
      · simp only [hhard, if_true] at hrest
        exact (courses_rollBack _ _ _ _ _ hrest).prepend hasked
      · simp only [hhard, Bool.false_eq_true, if_false] at hrest
        obtain ⟨rfl, rfl, -⟩ := runs_fail.1 hrest
        exact .noted hasked (not_isVerdict_of_mem (List.mem_singleton_self _))
    · obtain ⟨rfl, rfl, -⟩ := runs_pure.1 hrest
      exact .noted hasked not_isVerdict_ok

theorem courses_start :
    Courses settings ns c.name configured (start settings ns c claims configured requested : Pass σ _) :=
  .bind (.aside fun _ ↦ rfl) fun _ ↦ .bind (courses_markStarted _) fun _ ↦ .bind (.mapM courses_growClaim claims) fun _ ↦
    .bind (.aside fun _ ↦ rfl) fun _ ↦ .pure _

theorem courses_decideOn :
    Courses settings ns c.name configured (decideOn settings ns c claims actual configured : Pass σ _) := by
  refine .bind (.orFail fun f hf ↦ Quantity.not_isVerdict_of_alignedBytes hf) fun configuredBytes ↦
    .bind (.orFail fun f hf ↦ Quantity.not_isVerdict_of_alignedBytes hf) fun requested ↦ ?_
  split
  · next e he => exact .throw (not_isVerdict_of_ofCluster he)
  · exact courses_followUp
  · split
    · exact courses_refuseShrink
    · split
      · exact .pure _
      · exact courses_start

/-- The request of the StatefulSet of a cluster, as a pass was told it. -/
def ToldConfigured (es : List Exchange) (ns : String) (c : Cluster) (configured : String) : Prop :=
  ∃ set, ⟨.call (.getStatefulSet ns (c.tierSet .database)), .ok (some set)⟩ ∈ es ∧
    set.templateRequest? dataVolume = some configured

/-- Looking up the volumes asks nothing of clusters and comes to no verdict. -/
theorem noted_find {r : Except Failure Volumes} (h : (find ns c).Runs m es r m') :
    (∀ call ∈ calls es, call.concernsClusters = false) ∧ ¬IsVerdict es r := by
  rcases runs_call_bind.1 h with ⟨e, rfl, rfl, -⟩ | ⟨held, rest, rfl, hrest⟩
  · exact ⟨by simp [Call.concernsClusters], not_isVerdict_of_mem (List.mem_singleton_self _)⟩
  · dsimp only at hrest
    split at hrest
    · obtain ⟨rfl, rfl, -⟩ := runs_pure.1 hrest
      exact ⟨by simp [Call.concernsClusters], not_isVerdict_ok⟩
    · rcases runs_call_bind.1 hrest with ⟨e, rfl, rfl, -⟩ | ⟨pods, rest, rfl, hend⟩
      · exact ⟨by simp [Call.concernsClusters], not_isVerdict_of_mem (List.mem_cons_of_mem _ (List.mem_singleton_self _))⟩
      · obtain ⟨rfl, rfl, -⟩ := runs_pure.1 hend
        exact ⟨by simp [Call.concernsClusters], not_isVerdict_ok⟩

/-- A pass over volumes asks nothing of clusters and comes to no verdict, or it goes a course with what the StatefulSet
was made with. -/
theorem course_of_reconcile {r : Except Failure ResizeOutcome} (h : (reconcile settings c).Runs m es r m')
    (hns : c.metadata.ns? = some ns) :
    ((∀ call ∈ calls es, call.concernsClusters = false) ∧ ¬IsVerdict es r) ∨
      ∃ configured, ToldConfigured es ns c configured ∧ Course σ settings ns c.name configured es r := by
  simp only [reconcile, hns] at h
  rcases runs_bind.1 h with ⟨es₁, es₂, volumes, m₁, rfl, hfind, hrest⟩ | ⟨f, rfl, hfind⟩
  · obtain ⟨hlooks, -⟩ := noted_find hfind
    split at hrest
    · obtain ⟨rfl, rfl, -⟩ := runs_pure.1 hrest
      exact .inl ⟨by simpa using hlooks, not_isVerdict_ok⟩
    rcases runs_orFail_bind.1 hrest with ⟨f, hf, rfl, rfl, -⟩ | ⟨least, -, hset⟩
    · exact .inl ⟨by simpa using hlooks, not_isVerdict_of_plain (not_isVerdict_of_leastCapacity hf)⟩
    cases least with
    | none =>
      obtain ⟨rfl, rfl, -⟩ := runs_pure.1 hset
      exact .inl ⟨by simpa using hlooks, not_isVerdict_ok⟩
    | some actual =>
      have hlooks' (reply : Except Error (Option StatefulSet)) : ∀ call ∈ calls (es₁ ++
          [⟨.call (.getStatefulSet ns (c.tierSet .database)), reply⟩]), call.concernsClusters = false := by
        simpa [or_imp, forall_and, Call.concernsClusters] using hlooks
      rcases runs_call_bind.1 hset with ⟨e, rfl, rfl, -⟩ | ⟨set?, rest, rfl, hafter⟩
      · exact .inl ⟨hlooks' _, not_isVerdict_of_mem (List.mem_append_right _ (List.mem_singleton_self _))⟩
      cases set? with
      | none =>
        obtain ⟨rfl, rfl, -⟩ := runs_pure.1 hafter
        exact .inl ⟨hlooks' _, not_isVerdict_ok⟩
      | some set =>
        cases hconfigured : set.templateRequest? dataVolume with
        | none =>
          simp only [hconfigured] at hafter
          obtain ⟨rfl, rfl, -⟩ := runs_pure.1 hafter
          exact .inl ⟨hlooks' _, not_isVerdict_ok⟩
        | some configured =>
          simp only [hconfigured] at hafter
          rw [List.append_cons]
          refine .inr ⟨configured, ⟨set, by simp, hconfigured⟩, ?_⟩
          exact (courses_decideOn _ _ _ _ hafter).prepend (.of_calls (hlooks' _))
  · obtain ⟨hlooks, hundecided⟩ := noted_find hfind
    exact .inl ⟨hlooks, fun hverdict ↦ hundecided (hverdict.mono (List.Subset.refl _))⟩

end Volume

end GaleraOperator
