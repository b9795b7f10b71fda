import GaleraOperator.Proofs.Run

/-!
# The same again

What surroundings reply to an interaction, one question after the other. Where two states of the surroundings cannot
be told apart by the questions that are asked, an interaction goes the same in both of them. Most parts of a pass make
no use of its memory: they go the same from every memory, and leave it as it was.
-/

namespace GaleraOperator

namespace Interaction

variable {α W : Type} {s : Surroundings W} {p : Interaction α} {w w' v v' : W} {es fs : List Exchange} {a a' : α}

/-- Surroundings give the replies of exchanges, one after the other, and then are what has become of them. -/
def Gives (s : Surroundings W) : W → List Exchange → W → Prop
  | w, [], v => v = w
  | w, x :: es, v => (s x.effect w).1 = x.reply ∧ Gives s (s x.effect w).2 es v

theorem gives_append : Gives s w (es ++ fs) v ↔ ∃ u, Gives s w es u ∧ Gives s u fs v := by
  induction es generalizing w with
  | nil => simp [Gives]
  | cons x es ih => simp only [List.cons_append, Gives, ih, and_assoc, exists_and_left]

/-- What happens in surroundings is given by them. -/
theorem gives_course (s : Surroundings W) (p : Interaction α) (w : W) : Gives s w (p.course s w) (p.run s w).2 := by
  induction p generalizing w with
  | done a => rfl
  | ask e next ih => exact ⟨rfl, ih _ _⟩

/-- Two states of the surroundings cannot be told apart by what is asked in exchanges, and neither can those that come
after them. -/
def Indistinct (s : Surroundings W) (same : W → W → Prop) (es : List Exchange) : Prop :=
  ∀ x ∈ es, ∀ w w', same w w' → (s x.effect w).1 = (s x.effect w').1 ∧ same (s x.effect w).2 (s x.effect w').2

/-- In states that cannot be told apart an interaction goes the same. -/
theorem Runs.replay {same : W → W → Prop} {es' : List Exchange} (h : p.Runs es a) (hgives : Gives s w es v)
    (hindistinct : Indistinct s same es) (hsame : same w w') (h' : p.Runs es' a') (hgives' : Gives s w' es' v') :
    es' = es ∧ a' = a ∧ same v v' := by
  induction h generalizing w w' es' with
  | done a =>
    obtain ⟨rfl, rfl⟩ := runs_done.1 h'
    obtain rfl : v = w := hgives
    obtain rfl : v' = w' := hgives'
    exact ⟨rfl, rfl, hsame⟩
  | @ask e next rest a reply hnext ih =>
    obtain ⟨reply', rest', rfl, hnext'⟩ := runs_ask.1 h'
    obtain ⟨hreply, hgives⟩ := hgives
    obtain ⟨hreply', hgives'⟩ := hgives'
    obtain ⟨hfirst, hrest⟩ := List.forall_mem_cons.1 hindistinct
    obtain ⟨hequal, hsame⟩ := hfirst w w' hsame
    obtain rfl : reply = reply' := hreply.symm.trans (hequal.trans hreply')
    obtain ⟨rfl, rfl, hv⟩ := ih hgives hrest hsame hnext' hgives'
    exact ⟨rfl, rfl, hv⟩

end Interaction

namespace Pass

open Interaction

variable {σ α β W : Type} {p : Pass σ α} {m m' n n' : σ} {es es' : List Exchange} {r r' : Except Failure α}

/-- A pass that makes no use of its memory: every way in which it goes is one from any other memory, and it leaves each
as it was. -/
def Memoryless (p : Pass σ α) : Prop := ∀ m es r m', p.Runs m es r m' → m' = m ∧ ∀ n, p.Runs n es r n

namespace Memoryless

/-- In states that cannot be told apart a pass without memory goes the same. -/
theorem replay {s : Surroundings W} {same : W → W → Prop} {w w' v v' : W} (hp : Memoryless p) (h : p.Runs m es r m')
    (hgives : Gives s w es v) (hindistinct : Indistinct s same es) (hsame : same w w') (h' : p.Runs n es' r' n')
    (hgives' : Gives s w' es' v') : es' = es ∧ r' = r ∧ n' = n ∧ same v v' := by
  obtain ⟨-, hruns⟩ := hp m es r m' h
  obtain ⟨rfl, hresult, hv⟩ := (hruns n).replay hgives hindistinct hsame h' hgives'
  obtain ⟨rfl, rfl⟩ := Prod.mk.inj hresult
  exact ⟨rfl, rfl, rfl, hv⟩

theorem pure (a : α) : Memoryless (pure a : Pass σ α) := by
  intro m es r m' h
  obtain ⟨rfl, rfl, rfl⟩ := runs_pure.1 h
  exact ⟨rfl, fun n ↦ runs_pure.2 ⟨rfl, rfl, rfl⟩⟩

theorem throw (f : Failure) : Memoryless (throw f : Pass σ α) := by
  intro m es r m' h
  obtain ⟨rfl, rfl, rfl⟩ := runs_throw.1 h
  exact ⟨rfl, fun n ↦ runs_throw.2 ⟨rfl, rfl, rfl⟩⟩

theorem fail (e : Error) : Memoryless (fail e : Pass σ α) := throw _

theorem orFail (x : Except Failure α) : Memoryless (orFail x : Pass σ α) := by
  cases x with
  | ok a => exact pure a
  | error f => exact throw f

theorem orOverflow (x : Except Overflow α) : Memoryless (orOverflow x : Pass σ α) := by
  cases x with
  | ok a => exact pure a
  | error o => exact throw _

theorem ask (e : Effect) : Memoryless (ask e : Pass σ e.Reply) := by
  intro m es r m' h
  obtain ⟨reply, rfl, rfl, rfl⟩ := runs_ask.1 h
  exact ⟨rfl, fun n ↦ runs_ask.2 ⟨reply, rfl, rfl, rfl⟩⟩

theorem call (c : Call) : Memoryless (call c : Pass σ c.Answer) := by
  intro m es r m' h
  obtain ⟨reply, rfl, rfl, rfl⟩ := runs_call.1 h
  exact ⟨rfl, fun n ↦ runs_call.2 ⟨reply, rfl, rfl, rfl⟩⟩

theorem bind {f : α → Pass σ β} (hp : Memoryless p) (hf : ∀ a, Memoryless (f a)) : Memoryless (p >>= f) := by
  intro m es r m' h
  rcases runs_bind.1 h with ⟨es₁, es₂, a, m₁, rfl, hfirst, hsecond⟩ | ⟨e, rfl, hfirst⟩
  · obtain ⟨rfl, hfirst'⟩ := hp _ _ _ _ hfirst
    obtain ⟨rfl, hsecond'⟩ := hf a _ _ _ _ hsecond
    exact ⟨rfl, fun n ↦ runs_bind.2 (.inl ⟨es₁, es₂, a, n, rfl, hfirst' n, hsecond' n⟩)⟩
  · obtain ⟨rfl, hfirst'⟩ := hp _ _ _ _ hfirst
    exact ⟨rfl, fun n ↦ runs_bind.2 (.inr ⟨e, rfl, hfirst' n⟩)⟩

theorem attempt (hp : Memoryless p) : Memoryless (attempt p) := by
  intro m es r m' h
  rcases runs_attempt.1 h with ⟨a, rfl, hrun⟩ | ⟨e, rfl, hrun⟩ | ⟨o, rfl, hrun⟩ <;>
    obtain ⟨rfl, hruns⟩ := hp _ _ _ _ hrun
  · exact ⟨rfl, fun n ↦ runs_attempt.2 (.inl ⟨a, rfl, hruns n⟩)⟩
  · exact ⟨rfl, fun n ↦ runs_attempt.2 (.inr (.inl ⟨e, rfl, hruns n⟩))⟩
  · exact ⟨rfl, fun n ↦ runs_attempt.2 (.inr (.inr ⟨o, rfl, hruns n⟩))⟩

theorem mapM {f : α → Pass σ β} (hf : ∀ a, Memoryless (f a)) (xs : List α) : Memoryless (xs.mapM f) := by
  induction xs with
  | nil => exact pure []
  | cons x xs ih =>
    rw [List.mapM_cons]
    exact (hf x).bind fun b ↦ ih.bind fun bs ↦ pure (b :: bs)

theorem forM {f : α → Pass σ PUnit} (hf : ∀ a, Memoryless (f a)) (xs : List α) : Memoryless (xs.forM f) := by
  induction xs with
  | nil => exact pure _
  | cons x xs ih => exact (hf x).bind fun _ ↦ ih

/-- Repeating a write makes no use of the memory if the write does not. -/
theorem retryOnConflict (limit : UInt32) (hp : Memoryless p) : Memoryless (retryOnConflict limit p) := by
  rw [retryOnConflict_eq]
  generalize limit.toNat - 1 = more
  generalize 0 = past
  induction more generalizing past with
  | zero => exact hp
  | succ more ih =>
    rw [repeated_succ]
    refine (attempt hp).bind fun tried ↦ ?_
    cases tried with
    | ok a => exact pure a
    | error e =>
      by_cases he : e.isConflict
      · simp only [orAgain, he, if_true]
        exact (ask _).bind fun _ ↦ ih (past + 1)
      · simp only [orAgain, he, Bool.false_eq_true, if_false]
        exact fail e

end Memoryless

end Pass

end GaleraOperator
