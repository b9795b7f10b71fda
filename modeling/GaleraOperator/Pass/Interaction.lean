import GaleraOperator.Api.Call
import GaleraOperator.Backoff
import GaleraOperator.Health.Measurement

/-!
# Interactions

What the operator does is a tree: at each node it asks one thing of its surroundings, and every answer leads on. The
same tree runs against a model of the cluster, against the real interface, or is only looked at. `run_bind` says that
running one interaction after the other is running them joined.
-/

namespace GaleraOperator

/-- Why time is let pass. -/
inductive Wait where
  /-- A write conflicted, after so many attempts before. -/
  | conflict (past : Nat)
  /-- A pod was told to start a new cluster, and is given time to do so. -/
  | settle (d : Duration)
  deriving DecidableEq, Repr

/-- One thing asked of the surroundings. -/
inductive Effect where
  | call (c : Call)
  /-- The time of the wall clock. -/
  | now
  | wait (w : Wait)
  /-- Count or show something about a cluster. -/
  | measure (ns name : String) (m : Measurement)
  /-- Note that a pass ended well at the given second of Unix time. -/
  | touch (seconds : Nat)
  deriving DecidableEq, Repr

/-- The answer to what is asked. -/
abbrev Effect.Reply : Effect → Type
  | .call c => Except Error c.Answer
  | .now => Instant
  | .wait _ | .measure .. | .touch _ => Unit

/-- A course of action that depends on the answers it gets. -/
inductive Interaction (α : Type) where
  | done (result : α)
  | ask (e : Effect) (next : e.Reply → Interaction α)

namespace Interaction

variable {α β γ W : Type}

/-- Go on with the result of an interaction. -/
def bind : Interaction α → (α → Interaction β) → Interaction β
  | .done a, f => f a
  | .ask e next, f => .ask e fun reply ↦ (next reply).bind f

instance : Monad Interaction where
  pure := .done
  bind := bind

theorem bind_done (p : Interaction α) : p.bind .done = p := by
  induction p with
  | done a => rfl
  | ask e next ih => exact congrArg (ask e) (funext ih)

theorem bind_assoc (p : Interaction α) (f : α → Interaction β) (g : β → Interaction γ) :
    (p.bind f).bind g = p.bind fun a ↦ (f a).bind g := by
  induction p with
  | done a => rfl
  | ask e next ih => exact congrArg (ask e) (funext ih)

instance : LawfulMonad Interaction := LawfulMonad.mk' Interaction bind_done (fun _ _ ↦ rfl) bind_assoc

/-- Surroundings: the answer to everything that may be asked, and what becomes of them. -/
abbrev Surroundings (W : Type) := (e : Effect) → W → e.Reply × W

/-- Run an interaction in its surroundings. -/
def run (s : Surroundings W) : Interaction α → W → α × W
  | .done a, w => (a, w)
  | .ask e next, w =>
    let (reply, w) := s e w
    (next reply).run s w

@[simp] theorem run_pure (s : Surroundings W) (a : α) (w : W) : (pure a : Interaction α).run s w = (a, w) := rfl

@[simp] theorem run_ask (s : Surroundings W) (e : Effect) (next : e.Reply → Interaction α) (w : W) :
    (ask e next).run s w = (next (s e w).1).run s (s e w).2 := rfl

/-- Interactions joined run one after the other. -/
@[simp] theorem run_bind (s : Surroundings W) (p : Interaction α) (f : α → Interaction β) (w : W) :
    (p >>= f).run s w = (f (p.run s w).1).run s (p.run s w).2 := by
  induction p generalizing w with
  | done a => rfl
  | ask e next ih => exact ih (s e w).1 (s e w).2

end Interaction

end GaleraOperator
