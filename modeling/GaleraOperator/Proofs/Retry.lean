import GaleraOperator.Proofs.ClusterWrite

/-!
# Attempts at a write

A write that may conflict with another writer is attempted again and again. Here the attempts are numbered as if they
went on for ever, each from what the one before it left: those made are the first ones up to one that does not end in a
conflict, or as many as are allowed, and the last is what the write comes to. What is exchanged is what the attempts
exchange and the time let pass between them, so the exchanges tell how many were made.
-/

namespace GaleraOperator

namespace Interaction

variable {α β W : Type} (s : Surroundings W) (w : W)

/-- What two parts exchange, one after the other. -/
theorem course_bind (p : Interaction α) (f : α → Interaction β) :
    (p >>= f).course s w = p.course s w ++ (f (p.run s w).1).course s (p.run s w).2 := by
  induction p generalizing w with
  | done a => rfl
  | ask e next ih => exact congrArg _ (ih (s e w).1 (s e w).2)

variable {s w}

/-- Every reply is one that the surroundings give. -/
theorem reply_of_mem_course {p : Interaction α} {e : Effect} {reply : e.Reply} (h : ⟨e, reply⟩ ∈ p.course s w) :
    ∃ w', reply = (s e w').1 := by
  induction p generalizing w with
  | done a => cases h
  | ask e' next ih =>
    rcases List.mem_cons.1 h with heq | hmem
    · cases heq
      exact ⟨w, rfl⟩
    · exact ih _ hmem

end Interaction

/-- Calls fail with nothing but what the cluster's interface answers, or what went wrong in a container. -/
def FailsByFaults {W : Type} (s : Interaction.Surroundings W) : Prop :=
  ∀ call w e, (s (.call call) w).1 = .error e → (∃ fault, e = .call fault) ∨ ∃ pod message, e = .exec pod message

namespace Pass

open Interaction

variable {σ α β W : Type}

section Course

variable (s : Surroundings W) (m : σ) (w : W)

/-- The second of two parts exchanges something only if the first one does not fail. -/
theorem courseIn_bind (p : Pass σ α) (f : α → Pass σ β) :
    (p >>= f).courseIn s m w = p.courseIn s m w ++
      match p.runIn s m w with
      | ((.ok a, memory), w) => (f a).courseIn s memory w
      | ((.error _, _), _) => [] := by
  simp only [courseIn, runIn, ExceptT.run_bind, StateT.run_bind, course_bind]
  rcases Interaction.run s (StateT.run (ExceptT.run p) m) w with ⟨⟨_ | _, _⟩, _⟩ <;> rfl

/-- An attempt exchanges what the part does. -/
theorem courseIn_attempt (p : Pass σ α) : (attempt p).courseIn s m w = p.courseIn s m w := by
  simp only [courseIn, attempt, ExceptT.run_mk, StateT.run_bind, course_bind]
  rcases Interaction.run s (StateT.run (ExceptT.run p) m) w with ⟨⟨(_ | _) | _, _⟩, _⟩ <;> exact List.append_nil _

end Course

/-- The outcome of an attempt that came to nothing because another writer was there first: an answer with code 409. -/
def Conflicted (r : Except Failure α) : Prop := ∃ e : Error, r = .error (.error e) ∧ e.isConflict = true

/-- A pass to be attempted again and again in given surroundings, and what the first attempt starts from. -/
structure Attempts (σ α W : Type) where
  pass : Pass σ α
  surroundings : Surroundings W
  memory : σ
  world : W

namespace Attempts

variable (a : Attempts σ α W)

/-- What an attempt starts from: what the one before it left, after some time was let pass. -/
def start : ℕ → σ × W
  | 0 => (a.memory, a.world)
  | i + 1 =>
    let left := a.pass.runIn a.surroundings (start i).1 (start i).2
    (left.1.2, (a.surroundings (.wait (.conflict i)) left.2).2)

/-- What an attempt ends with and leaves. -/
def left (i : ℕ) : (Except Failure α × σ) × W := a.pass.runIn a.surroundings (a.start i).1 (a.start i).2

/-- What an attempt comes to. -/
def outcome (i : ℕ) : Except Failure α := (a.left i).1.1

/-- What an attempt exchanges. -/
def exchanges (i : ℕ) : List Exchange := a.pass.courseIn a.surroundings (a.start i).1 (a.start i).2

/-- What an attempt and so many further ones exchange, and the time let pass between them. -/
def course (i : ℕ) : ℕ → List Exchange
  | 0 => a.exchanges i
  | more + 1 => a.exchanges i ++ ⟨.wait (.conflict i), ()⟩ :: course (i + 1) more

theorem runs (i : ℕ) : a.pass.Runs (a.start i).1 (a.exchanges i) (a.outcome i) (a.left i).1.2 := runs_courseIn ..

variable {a} {i : ℕ}

/-- After a conflict some time is let pass and another attempt is made, if there may be one. -/
theorem repeated_of_conflicted (h : Conflicted (a.outcome i)) (more : ℕ) :
    (repeated a.pass (more + 1) i).runIn a.surroundings (a.start i).1 (a.start i).2 =
        (repeated a.pass more (i + 1)).runIn a.surroundings (a.start (i + 1)).1 (a.start (i + 1)).2 ∧
      (repeated a.pass (more + 1) i).courseIn a.surroundings (a.start i).1 (a.start i).2 =
        a.exchanges i ++ ⟨.wait (.conflict i), ()⟩ ::
          (repeated a.pass more (i + 1)).courseIn a.surroundings (a.start (i + 1)).1 (a.start (i + 1)).2 := by
  obtain ⟨e, houtcome, hconflict⟩ := h
  have hleft : a.pass.runIn a.surroundings (a.start i).1 (a.start i).2 =
      ((.error (.error e), (a.left i).1.2), (a.left i).2) := by
    rw [← houtcome]
    rfl
  rw [repeated_succ]
  constructor
  · rw [runIn_bind, runIn_attempt, hleft]
    simp only [orAgain, hconflict, if_true, runIn_bind]
    rfl
  · rw [courseIn_bind, runIn_attempt, courseIn_attempt, hleft]
    simp only [orAgain, hconflict, if_true]
    rfl

/-- Any other outcome is the last one. -/
theorem repeated_of_not_conflicted (h : ¬Conflicted (a.outcome i)) (more : ℕ) :
    (repeated a.pass more i).runIn a.surroundings (a.start i).1 (a.start i).2 = a.left i ∧
      (repeated a.pass more i).courseIn a.surroundings (a.start i).1 (a.start i).2 = a.exchanges i := by
  cases more with
  | zero => exact ⟨rfl, rfl⟩
  | succ more =>
    have hleft : a.pass.runIn a.surroundings (a.start i).1 (a.start i).2 =
        ((a.outcome i, (a.left i).1.2), (a.left i).2) := rfl
    have hlast : a.left i = ((a.outcome i, (a.left i).1.2), (a.left i).2) := rfl
    rw [repeated_succ, runIn_bind, courseIn_bind, runIn_attempt, courseIn_attempt, hleft, hlast]
    cases houtcome : a.outcome i with
    | ok value => exact ⟨rfl, List.append_nil _⟩
    | error f =>
      cases f with
      | overflow o => exact ⟨rfl, List.append_nil _⟩
      | error e =>
        have hconflict : ¬e.isConflict = true := fun hconflict ↦ h ⟨e, houtcome, hconflict⟩
        simp only [orAgain, hconflict]
        exact ⟨rfl, List.append_nil _⟩

/-- Attempts are made up to one that does not end in a conflict, or until no further one may be made. -/
theorem repeated_attempts {more n : ℕ} (hmore : n ≤ more) (hconflicts : ∀ j < n, Conflicted (a.outcome (i + j)))
    (hlast : n = more ∨ ¬Conflicted (a.outcome (i + n))) :
    (repeated a.pass more i).runIn a.surroundings (a.start i).1 (a.start i).2 = a.left (i + n) ∧
      (repeated a.pass more i).courseIn a.surroundings (a.start i).1 (a.start i).2 = a.course i n := by
  induction n generalizing i more with
  | zero =>
    rcases hlast with rfl | hsettled
    · exact ⟨rfl, rfl⟩
    · exact repeated_of_not_conflicted hsettled more
  | succ n ih =>
    obtain ⟨more, rfl⟩ : ∃ more', more = more' + 1 := ⟨more - 1, by omega⟩
    have hfirst : Conflicted (a.outcome i) := hconflicts 0 n.succ_pos
    obtain ⟨hrun, hcourse⟩ := repeated_of_conflicted hfirst more
    have hshift (j : ℕ) : i + 1 + j = i + (j + 1) := by omega
    have hmore' : n ≤ more := Nat.le_of_succ_le_succ hmore
    obtain ⟨hrun', hcourse'⟩ := ih (i := i + 1) hmore'
      (fun j hj ↦ by rw [hshift]; exact hconflicts (j + 1) (by omega))
      (hlast.imp (by omega) fun hsettled ↦ by rwa [hshift])
    rw [hrun, hcourse, hrun', hcourse', hshift]
    exact ⟨rfl, rfl⟩

variable (a)

/-- The place of the first attempt that does not end in a conflict, counted from one; there need not be one. -/
noncomputable def settledAt : ℕ∞ := ⨅ (i : ℕ) (_ : ¬Conflicted (a.outcome i)), ((i + 1 : ℕ) : ℕ∞)

/-- The attempt with this number is the last one that a limit on their number allows, or needs. -/
structure IsLast (limit last : ℕ) : Prop where
  lt_limit : last < limit
  conflicted : ∀ i < last, Conflicted (a.outcome i)
  settled : last + 1 = limit ∨ ¬Conflicted (a.outcome last)

theorem exists_isLast {limit : ℕ} (hpos : 0 < limit) : ∃ last, a.IsLast limit last := by
  by_cases h : ∃ i < limit, ¬Conflicted (a.outcome i)
  · classical
    obtain ⟨hlt, hsettled⟩ := Nat.find_spec h
    refine ⟨Nat.find h, hlt, fun i hi ↦ ?_, .inr hsettled⟩
    by_contra hother
    exact Nat.find_min h hi ⟨hi.trans hlt, hother⟩
  · push Not at h
    exact ⟨limit - 1, by omega, fun i hi ↦ h i (by omega), .inl (by omega)⟩

variable {a}

theorem IsLast.eq_min {limit last : ℕ} (h : a.IsLast limit last) :
    ((last + 1 : ℕ) : ℕ∞) = min a.settledAt limit := by
  apply le_antisymm
  · refine le_min (le_iInf₂ fun i hi ↦ ?_) (by exact_mod_cast h.lt_limit)
    have hle : last ≤ i := not_lt.1 fun hlt ↦ hi (h.conflicted i hlt)
    exact_mod_cast Nat.succ_le_succ hle
  · rcases h.settled with hlimit | hsettled
    · exact min_le_of_right_le (by rw [hlimit])
    · exact min_le_of_left_le (iInf₂_le last hsettled)

/-- All attempts that the limit allows ended in a conflict exactly if the last one did. -/
theorem IsLast.conflicted_iff {limit last : ℕ} (h : a.IsLast limit last) :
    Conflicted (a.outcome last) ↔ ∀ i < limit, Conflicted (a.outcome i) := by
  constructor
  · intro hlast i hi
    have hlimit : last + 1 = limit := h.settled.resolve_right (not_not_intro hlast)
    rcases Nat.lt_or_eq_of_le (Nat.le_of_lt_succ (hlimit ▸ hi)) with hlt | rfl
    · exact h.conflicted i hlt
    · exact hlast
  · intro hall
    exact hall last h.lt_limit

/-- A write that may conflict is attempted up to the last attempt that the limit allows, or needs. -/
theorem IsLast.retryOnConflict {limit : UInt32} {last : ℕ} (h : a.IsLast (max 1 limit.toNat) last) :
    (retryOnConflict limit a.pass).runIn a.surroundings a.memory a.world = a.left last ∧
      (retryOnConflict limit a.pass).courseIn a.surroundings a.memory a.world = a.course 0 last := by
  have hlt := h.lt_limit
  have hmore : last ≤ limit.toNat - 1 := by omega
  have hrun := repeated_attempts (a := a) (i := 0) hmore
    (fun j hj ↦ by rw [zero_add]; exact h.conflicted j hj)
    (h.settled.imp (by omega) fun hsettled ↦ by rwa [zero_add])
  rw [zero_add] at hrun
  exact hrun

end Attempts

end Pass

namespace StatusUpdate

open Pass ClusterWrite

variable {σ W : Type} {u : StatusUpdate} {settings : Settings} {c : Cluster} {ns : String}
  {s : Interaction.Surroundings W} {m : σ} {w : W}

/-- The attempts at writing a status. -/
def attempts (u : StatusUpdate) (ns name : String) (s : Interaction.Surroundings W) (m : σ) (w : W) :
    Attempts σ Unit W := ⟨u.writeOnce ns name, s, m, w⟩

/-- Writing a status goes as its attempts go, and ends as they do but for the wording. -/
theorem write_of_retryOnConflict (hns : c.metadata.ns? = some ns) {r : Except Failure Unit} {m' : σ} {w' : W}
    (hretry : (retryOnConflict settings.writeAttempts (u.writeOnce ns c.name)).runIn s m w = ((r, m'), w')) :
    (u.write settings c).runIn s m w = ((worded r, m'), w') ∧
      (u.write settings c).courseIn s m w =
        (retryOnConflict settings.writeAttempts (u.writeOnce ns c.name)).courseIn s m w := by
  simp only [write, hns]
  rw [runIn_bind, courseIn_bind, runIn_attempt, courseIn_attempt, hretry]
  rcases r with (e | o) | a
  · cases hconflict : e.isConflict <;> simp only [worded, hconflict] <;> exact ⟨rfl, List.append_nil _⟩
  · exact ⟨rfl, List.append_nil _⟩
  · exact ⟨rfl, List.append_nil _⟩

/-- How writing a status ends: with the error of a lost write if every attempt that is allowed ended in a conflict, and
as the last attempt did otherwise. -/
structure Ends (a : Attempts σ Unit W) (limit last : ℕ) (r : Except Failure Unit) : Prop where
  lost : (∀ i < limit, Conflicted (a.outcome i)) →
    ∃ e, a.outcome last = .error (.error e) ∧ r = .error (.error (.statusWrite e.message))
  settled : (¬∀ i < limit, Conflicted (a.outcome i)) → r = a.outcome last

theorem ends_worded {a : Attempts σ Unit W} {limit last : ℕ} (h : a.IsLast limit last) :
    Ends a limit last (worded (a.outcome last)) := by
  constructor
  · intro hall
    obtain ⟨e, houtcome, hconflict⟩ := h.conflicted_iff.2 hall
    exact ⟨e, houtcome, by rw [houtcome, worded, if_pos hconflict]⟩
  · intro hsome
    have hsettled : ¬Conflicted (a.outcome last) := h.conflicted_iff.not.2 hsome
    cases houtcome : a.outcome last with
    | ok => rfl
    | error f =>
      cases f with
      | overflow o => rfl
      | error e => rw [worded, if_neg fun hconflict ↦ hsettled ⟨e, houtcome, hconflict⟩]

/-- The error of a lost write is told exactly if every attempt that is allowed ended in a conflict, but for a last
attempt that failed with such an error itself. -/
theorem Ends.statusWrite_iff {a : Attempts σ Unit W} {limit last : ℕ} {r : Except Failure Unit}
    (h : Ends a limit last r) (hother : ∀ text, a.outcome last ≠ .error (.error (.statusWrite text))) :
    (∃ text, r = .error (.error (.statusWrite text))) ↔ ∀ i < limit, Conflicted (a.outcome i) := by
  constructor
  · rintro ⟨text, rfl⟩
    by_contra hsome
    exact hother text (h.settled hsome).symm
  · intro hall
    obtain ⟨e, -, hr⟩ := h.lost hall
    exact ⟨e.message, hr⟩

/-- Where calls fail with nothing of the operator's own, no attempt fails with the error of a lost write. -/
theorem outcome_ne_statusWrite (hfaults : FailsByFaults s) (c : Cluster) (text : String) (i : ℕ) :
    (u.attempts ns c.name s m w).outcome i ≠ .error (.error (.statusWrite text)) := by
  have hattempt : (status u c).Attempt ns c.name ((u.attempts ns c.name s m w).exchanges i)
      ((u.attempts ns c.name s m w).outcome i) := attempt_writeOnce ((u.attempts ns c.name s m w).runs i)
  intro houtcome
  rw [houtcome] at hattempt
  rcases hattempt.fails_with with ⟨what, -, hwhat⟩ | ⟨call, e, hmem, he⟩
  · cases hwhat
  · obtain ⟨w', hreply⟩ := Interaction.reply_of_mem_course hmem
    rcases hfaults call w' e hreply.symm with ⟨fault, rfl⟩ | ⟨pod, message, rfl⟩ <;> cases he

/-- A write that may conflict is attempted until it does not, and no more often than the limit says, but once at least;
it ends as the last attempt does. So writing a status tells that it lost exactly if every attempt that is allowed ended
in a conflict, and any other error is the one of the attempt after which no further one was made. -/
theorem attempts_bounded {τ V α : Type} (limit : UInt32) (a : Attempts τ α V) (u : StatusUpdate) (settings : Settings)
    (c : Cluster) (s : Interaction.Surroundings W) (m : σ) (w : W) :
    (∃ last : ℕ, ((last + 1 : ℕ) : ℕ∞) = min a.settledAt (max 1 limit.toNat : ℕ) ∧
      (retryOnConflict limit a.pass).runIn a.surroundings a.memory a.world = a.left last ∧
      (retryOnConflict limit a.pass).courseIn a.surroundings a.memory a.world = a.course 0 last) ∧
    (c.metadata.ns? = none → (u.write settings c).runIn s m w = ((.error (.error .missingNamespace), m), w)) ∧
    ∀ ns, c.metadata.ns? = some ns → ∃ (last : ℕ) (r : Except Failure Unit),
      ((last + 1 : ℕ) : ℕ∞) =
        min (u.attempts ns c.name s m w).settledAt (max 1 settings.writeAttempts.toNat : ℕ) ∧
      (u.write settings c).runIn s m w =
        ((r, ((u.attempts ns c.name s m w).left last).1.2), ((u.attempts ns c.name s m w).left last).2) ∧
      (u.write settings c).courseIn s m w = (u.attempts ns c.name s m w).course 0 last ∧
      Ends (u.attempts ns c.name s m w) (max 1 settings.writeAttempts.toNat) last r ∧
      (FailsByFaults s → ((∃ text, r = .error (.error (.statusWrite text))) ↔
        ∀ i < max 1 settings.writeAttempts.toNat, Conflicted ((u.attempts ns c.name s m w).outcome i))) := by
  refine ⟨?_, fun hns ↦ ?_, fun ns hns ↦ ?_⟩
  · have hpos : 0 < max 1 limit.toNat := by omega
    obtain ⟨last, hlast⟩ := a.exists_isLast hpos
    exact ⟨last, hlast.eq_min, hlast.retryOnConflict⟩
  · simp only [write, hns]
    rfl
  · have hpos : 0 < max 1 settings.writeAttempts.toNat := by omega
    obtain ⟨last, hlast⟩ := (u.attempts ns c.name s m w).exists_isLast hpos
    obtain ⟨hretry, hcourse⟩ := hlast.retryOnConflict
    obtain ⟨hwrite, hsame⟩ := write_of_retryOnConflict hns hretry
    have hends := ends_worded hlast
    exact ⟨last, _, hlast.eq_min, hwrite, hsame.trans hcourse, hends,
      fun hfaults ↦ hends.statusWrite_iff fun text ↦ outcome_ne_statusWrite hfaults c text last⟩

/-- A cluster that somebody else writes to all the time. -/
private def contested : Cluster where
  metadata := { Kube.ObjectMeta.empty with name := some "db", ns? := some "prod", resourceVersion := some "1" }
  spec := ⟨⟨3, "image", true, ⟨none, "2Gi"⟩⟩, none, none, false, none⟩
  status := none

/-- The same cluster, but nobody knows where it is. -/
private def unplaced : Cluster := { contested with metadata := { contested.metadata with ns? := none } }

/-- Surroundings in which every write comes too late. -/
private def tooLate : Interaction.Surroundings Unit
  | .call (.getCluster _ _), w => (.ok (some contested), w)
  | .call _, w => (.error (.call (.refused ⟨"Failure", "the object has been modified", "Conflict", 409⟩)), w)
  | .now, w => (Store.standstill, w)
  | .wait _, w | .measure .., w | .touch _, w => ((), w)

/-- All five attempts end in a conflict, and that is what is told. Without a namespace there is no attempt. -/
theorem attempts_bounded_contested :
    contested.metadata.ns? = some "prod" ∧ FailsByFaults tooLate ∧
      (∀ i < 5, Conflicted (((failed "no quorum").attempts "prod" "db" tooLate () ()).outcome i)) ∧
      (∃ text, (((failed "no quorum").write .standard contested).runIn tooLate () ()).1.1 =
        .error (.error (.statusWrite text))) ∧
    unplaced.metadata.ns? = none ∧ ((failed "no quorum").write .standard unplaced).runIn tooLate () () =
      ((.error (.error .missingNamespace), ()), ()) := by
  have hfaults : FailsByFaults tooLate := by
    intro call w e h
    cases call <;> cases h <;> exact .inl ⟨_, rfl⟩
  have hlost : ∀ i < 5, Conflicted (((failed "no quorum").attempts "prod" "db" tooLate () ()).outcome i) :=
    fun i _ ↦ ⟨_, rfl, rfl⟩
  obtain ⟨-, -, hwrite⟩ := attempts_bounded 5 ((failed "no quorum").attempts "prod" "db" tooLate () ())
    (failed "no quorum") .standard contested tooLate () ()
  obtain ⟨-, hunplaced, -⟩ := attempts_bounded 5 ((failed "no quorum").attempts "prod" "db" tooLate () ())
    (failed "no quorum") .standard unplaced tooLate () ()
  obtain ⟨last, r, -, hrun, -, -, htold⟩ := hwrite "prod" rfl
  rw [hrun]
  exact ⟨rfl, hfaults, hlost, (htold hfaults).2 hlost, rfl, hunplaced rfl⟩

end StatusUpdate

end GaleraOperator
