import GaleraOperator.Pass.Interaction
import GaleraOperator.Retry

/-!
# Passes

A pass is an interaction that remembers things and may fail. What it remembered up to its failure is not lost. An
error may be handled by whoever called for the part that failed; arithmetic without a result may not. The lemmas on
`runIn` say how a pass runs in terms of how its parts do.
-/

namespace GaleraOperator

/-- A pass, or a part of one, with a memory of type `σ`. -/
abbrev Pass (σ α : Type) := ExceptT Failure (StateT σ Interaction) α

namespace Pass

variable {σ τ α : Type}

/-- Ask something of the surroundings. -/
def ask (e : Effect) : Pass σ e.Reply :=
  .mk fun memory ↦ .ask e fun reply ↦ .done (.ok reply, memory)

/-- Fail with an error. -/
def fail (e : Error) : Pass σ α := throw (.error e)

/-- End for want of a result of arithmetic. -/
def orOverflow : Except Overflow α → Pass σ α
  | .ok a => pure a
  | .error o => throw (.overflow o)

/-- Take a result, or fail as it did. -/
def orFail : Except Failure α → Pass σ α
  | .ok a => pure a
  | .error f => throw f

/-- Call the cluster's interface. -/
def call (c : Call) : Pass σ c.Answer :=
  .mk fun memory ↦ .ask (.call c) fun reply ↦ .done (reply.mapError .error, memory)

/-- The time of the wall clock. -/
def now : Pass σ Instant := ask .now

/-- Let time pass. -/
def wait (w : Wait) : Pass σ Unit := ask (.wait w)

/-- Count or show something about a cluster. -/
def measure (ns name : String) (m : Measurement) : Pass σ Unit := ask (.measure ns name m)

/-- Do something that may fail with an error, and go on with that error. -/
def attempt (p : Pass σ α) : Pass σ (Except Error α) :=
  .mk do
    match ← p.run with
    | .ok a => return .ok (.ok a)
    | .error (.error e) => return .ok (.error e)
    | .error (.overflow o) => return .error (.overflow o)

/-- Do something with one part of a larger memory; what it left there is put back also after a failure. -/
def focus (get : σ → τ) (set : τ → σ → σ) (p : Pass τ α) : Pass σ α :=
  .mk fun memory ↦ do
    let (result, part) ← p.run.run (get memory)
    return (result, set part memory)

/-- Whether an attempt failed because of a write that conflicts. -/
def conflicts : Failure → Bool
  | .error e => e.isConflict
  | .overflow _ => false

/-- Repeat a write while it conflicts with other writers, for at most `limit` attempts. -/
def retryOnConflict (limit : UInt32) (p : Pass σ α) : Pass σ α :=
  .mk (retryWhile conflicts limit.toNat (fun past ↦ do let _ ← (wait (.conflict past)).run) p.run)

/-- Run a pass in its surroundings, from a memory. -/
def runIn {W : Type} (p : Pass σ α) (s : Interaction.Surroundings W) (memory : σ) (w : W) :
    (Except Failure α × σ) × W :=
  (p.run.run memory).run s w

section Run

variable {β W : Type} (s : Interaction.Surroundings W) (memory : σ) (w : W)

@[simp] theorem runIn_pure (a : α) : (pure a : Pass σ α).runIn s memory w = ((.ok a, memory), w) := rfl

@[simp] theorem runIn_throw (f : Failure) :
    (throw f : Pass σ α).runIn s memory w = ((.error f, memory), w) := rfl

@[simp] theorem runIn_fail (e : Error) :
    (fail e : Pass σ α).runIn s memory w = ((.error (.error e), memory), w) := rfl

@[simp] theorem runIn_ask (e : Effect) :
    (ask e : Pass σ e.Reply).runIn s memory w = ((.ok (s e w).1, memory), (s e w).2) := rfl

@[simp] theorem runIn_call (c : Call) :
    (call c : Pass σ c.Answer).runIn s memory w =
      (((s (.call c) w).1.mapError .error, memory), (s (.call c) w).2) := rfl

/-- The second of two parts is run from what the first one left, if that did not fail. -/
theorem runIn_bind (p : Pass σ α) (f : α → Pass σ β) :
    (p >>= f).runIn s memory w =
      match p.runIn s memory w with
      | ((.ok a, memory), w) => (f a).runIn s memory w
      | ((.error e, memory), w) => ((.error e, memory), w) := by
  simp only [runIn, ExceptT.run_bind, StateT.run_bind, Interaction.run_bind]
  rcases Interaction.run s (StateT.run (ExceptT.run p) memory) w with ⟨⟨result, memory⟩, w⟩
  cases result <;> simp

/-- An attempt ends as the part does, but an error does not end it. -/
theorem runIn_attempt (p : Pass σ α) :
    (attempt p).runIn s memory w =
      match p.runIn s memory w with
      | ((.ok a, memory), w) => ((.ok (.ok a), memory), w)
      | ((.error (.error e), memory), w) => ((.ok (.error e), memory), w)
      | ((.error (.overflow o), memory), w) => ((.error (.overflow o), memory), w) := by
  simp only [attempt, runIn, ExceptT.run_mk, StateT.run_bind, Interaction.run_bind]
  rcases Interaction.run s (StateT.run (ExceptT.run p) memory) w with ⟨⟨result, memory⟩, w⟩
  rcases result with (e | o) | a <;> simp

/-- A part with a memory of its own leaves the rest of the memory alone, whether it fails or not. -/
theorem runIn_focus (get : σ → τ) (set : τ → σ → σ) (p : Pass τ α) :
    (focus get set p).runIn s memory w =
      (((p.runIn s (get memory) w).1.1, set (p.runIn s (get memory) w).1.2 memory),
        (p.runIn s (get memory) w).2) := by
  change Interaction.run s (p.run.run (get memory) >>= fun r ↦ pure (r.1, set r.2 memory)) w = _
  rw [Interaction.run_bind]
  rfl

end Run

end Pass

end GaleraOperator
