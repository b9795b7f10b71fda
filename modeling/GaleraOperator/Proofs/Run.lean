import GaleraOperator.Pass.Basic
import Mathlib

/-!
# Runs

Everything that an interaction can go through, whatever its surroundings answer: the exchanges of a run in their
order, and how it ends. A run of two parts is a run of the first followed by one of the second, so what holds of all
runs of a pass is put together from what holds of its parts. `Interaction.runs_course` says that what happens in given
surroundings is a run.
-/

namespace GaleraOperator

/-- One thing asked of the surroundings, with the reply to it. -/
structure Exchange where
  effect : Effect
  reply : effect.Reply

/-- The call of an exchange, if it is one. -/
@[simp] def Exchange.call? (x : Exchange) : Option Call :=
  match x.effect with
  | .call c => some c
  | _ => none

/-- The calls among exchanges, in order. -/
def calls (es : List Exchange) : List Call := es.filterMap Exchange.call?

@[simp] theorem calls_nil : calls [] = [] := rfl

@[simp] theorem calls_append (es fs : List Exchange) : calls (es ++ fs) = calls es ++ calls fs :=
  List.filterMap_append

theorem mem_calls_append {c : Call} {es fs : List Exchange} : c ∈ calls (es ++ fs) ↔ c ∈ calls es ∨ c ∈ calls fs := by
  rw [calls_append, List.mem_append]

@[simp] theorem calls_cons (x : Exchange) (es : List Exchange) : calls (x :: es) = x.call?.toList ++ calls es := by
  cases h : x.call? <;> simp only [calls, List.filterMap_cons, h] <;> rfl

/-- A call was made exactly if there is an exchange with it. -/
theorem mem_calls {c : Call} {es : List Exchange} : c ∈ calls es ↔ ∃ reply, ⟨.call c, reply⟩ ∈ es := by
  simp only [calls, List.mem_filterMap]
  constructor
  · rintro ⟨⟨e, reply⟩, hx, hc⟩
    cases e <;> simp only [Exchange.call?, Option.some.injEq, reduceCtorEq] at hc
    cases hc
    exact ⟨reply, hx⟩
  · rintro ⟨reply, hx⟩
    exact ⟨_, hx, rfl⟩

/-- Exchanges that change nothing. -/
def Reads (es : List Exchange) : Prop := ∀ c ∈ calls es, c.isWrite = false

@[simp] theorem reads_nil : Reads [] := by simp [Reads]

@[simp] theorem reads_append {es fs : List Exchange} : Reads (es ++ fs) ↔ Reads es ∧ Reads fs := by
  simp [Reads, or_imp, forall_and]

@[simp] theorem reads_cons {x : Exchange} {es : List Exchange} :
    Reads (x :: es) ↔ (∀ c ∈ x.call?, c.isWrite = false) ∧ Reads es := by
  simp only [Reads, calls_cons, List.mem_append, Option.mem_toList, or_imp, forall_and]
  rfl

/-- The calls among exchanges that change something, in order. -/
def writes (es : List Exchange) : List Call := (calls es).filter Call.isWrite

@[simp] theorem writes_append (es fs : List Exchange) : writes (es ++ fs) = writes es ++ writes fs := by
  rw [writes, calls_append, List.filter_append]
  rfl

theorem reads_iff_writes_eq_nil {es : List Exchange} : Reads es ↔ writes es = [] := by
  simp [Reads, writes, List.filter_eq_nil_iff]

namespace Interaction

variable {α β W : Type}

/-- Given the replies of some exchanges, an interaction asks exactly what they say and ends with a result. -/
inductive Runs : Interaction α → List Exchange → α → Prop where
  | done (a : α) : Runs (.done a) [] a
  | ask {e : Effect} {next : e.Reply → Interaction α} {es : List Exchange} {a : α} (reply : e.Reply)
      (rest : Runs (next reply) es a) : Runs (.ask e next) (⟨e, reply⟩ :: es) a

theorem runs_done {a b : α} {es : List Exchange} :
    (done a : Interaction α).Runs es b ↔ es = [] ∧ b = a := by
  constructor
  · intro h
    cases h
    exact ⟨rfl, rfl⟩
  · rintro ⟨rfl, rfl⟩
    exact .done _

theorem runs_ask {e : Effect} {next : e.Reply → Interaction α} {es : List Exchange} {a : α} :
    (ask e next).Runs es a ↔ ∃ reply rest, es = ⟨e, reply⟩ :: rest ∧ (next reply).Runs rest a := by
  constructor
  · intro h
    cases h with
    | ask reply rest => exact ⟨reply, _, rfl, rest⟩
  · rintro ⟨reply, rest, rfl, h⟩
    exact .ask reply h

/-- The replies decide what an interaction ends with. -/
theorem Runs.unique {p : Interaction α} {es : List Exchange} {a b : α} (h : p.Runs es a) (h' : p.Runs es b) : b = a := by
  induction h with
  | done a => exact (runs_done.1 h').2
  | ask reply rest ih =>
    obtain ⟨reply', rest', he, hrest⟩ := runs_ask.1 h'
    cases he
    exact ih hrest

/-- A run of two parts is a run of the first followed by one of the second. -/
theorem runs_bind {p : Interaction α} {f : α → Interaction β} {es : List Exchange} {b : β} :
    (p >>= f).Runs es b ↔ ∃ es₁ es₂ a, es = es₁ ++ es₂ ∧ p.Runs es₁ a ∧ (f a).Runs es₂ b := by
  induction p generalizing es with
  | done a =>
    constructor
    · intro h
      exact ⟨[], es, a, rfl, .done a, h⟩
    · rintro ⟨es₁, es₂, _, rfl, hp, hf⟩
      cases hp
      exact hf
  | ask e next ih =>
    change (ask e fun reply ↦ (next reply).bind f).Runs es b ↔ _
    rw [runs_ask]
    constructor
    · rintro ⟨reply, rest, rfl, h⟩
      obtain ⟨es₁, es₂, a, rfl, hp, hf⟩ := (ih reply).1 h
      exact ⟨⟨e, reply⟩ :: es₁, es₂, a, rfl, .ask reply hp, hf⟩
    · rintro ⟨es₁, es₂, a, rfl, hp, hf⟩
      obtain ⟨reply, rest, rfl, hnext⟩ := runs_ask.1 hp
      exact ⟨reply, rest ++ es₂, rfl, (ih reply).2 ⟨rest, es₂, a, rfl, hnext, hf⟩⟩

/-- The exchanges of an interaction in given surroundings. -/
def course (s : Surroundings W) : Interaction α → W → List Exchange
  | .done _, _ => []
  | .ask e next, w => ⟨e, (s e w).1⟩ :: (next (s e w).1).course s (s e w).2

/-- What happens in given surroundings is a run. -/
theorem runs_course (s : Surroundings W) (p : Interaction α) (w : W) : p.Runs (p.course s w) (p.run s w).1 := by
  induction p generalizing w with
  | done a => exact .done a
  | ask e next ih => exact .ask _ (ih _ _)

end Interaction

namespace Pass

variable {σ τ α β W : Type} {m m' : σ} {es : List Exchange} {r : Except Failure α}

/-- From a memory, given the replies of some exchanges, a pass asks exactly what they say, ends with a result and leaves
a memory. -/
def Runs (p : Pass σ α) (m : σ) (es : List Exchange) (r : Except Failure α) (m' : σ) : Prop :=
  (p.run.run m).Runs es (r, m')

/-- The exchanges of a pass in given surroundings, from a memory. -/
def courseIn (p : Pass σ α) (s : Interaction.Surroundings W) (m : σ) (w : W) : List Exchange :=
  (p.run.run m).course s w

/-- What a pass does in given surroundings is a run. -/
theorem runs_courseIn (p : Pass σ α) (s : Interaction.Surroundings W) (m : σ) (w : W) :
    p.Runs m (p.courseIn s m w) (p.runIn s m w).1.1 (p.runIn s m w).1.2 :=
  Interaction.runs_course s (p.run.run m) w

@[simp] theorem runs_pure {a : α} : (pure a : Pass σ α).Runs m es r m' ↔ es = [] ∧ r = .ok a ∧ m' = m :=
  Interaction.runs_done.trans (and_congr_right fun _ ↦ Prod.ext_iff)

@[simp] theorem runs_throw {f : Failure} :
    (throw f : Pass σ α).Runs m es r m' ↔ es = [] ∧ r = .error f ∧ m' = m :=
  Interaction.runs_done.trans (and_congr_right fun _ ↦ Prod.ext_iff)

@[simp] theorem runs_fail {e : Error} :
    (fail e : Pass σ α).Runs m es r m' ↔ es = [] ∧ r = .error (.error e) ∧ m' = m :=
  runs_throw

@[simp] theorem runs_orFail {x : Except Failure α} :
    (orFail x : Pass σ α).Runs m es r m' ↔ es = [] ∧ r = x ∧ m' = m := by
  cases x <;> simp [orFail]

@[simp] theorem runs_orOverflow {x : Except Overflow α} :
    (orOverflow x : Pass σ α).Runs m es r m' ↔ es = [] ∧ r = x.mapError .overflow ∧ m' = m := by
  cases x <;> simp [orOverflow, Except.mapError]

theorem runs_ask {e : Effect} {r : Except Failure e.Reply} :
    (ask e : Pass σ e.Reply).Runs m es r m' ↔ ∃ reply, es = [⟨e, reply⟩] ∧ r = .ok reply ∧ m' = m := by
  refine Interaction.runs_ask.trans ⟨?_, ?_⟩
  · rintro ⟨reply, rest, rfl, h⟩
    obtain ⟨rfl, he⟩ := Interaction.runs_done.1 h
    exact ⟨reply, rfl, Prod.mk.inj he⟩
  · rintro ⟨reply, rfl, rfl, rfl⟩
    exact ⟨reply, [], rfl, .done _⟩

theorem runs_call {c : Call} {r : Except Failure c.Answer} :
    (call c : Pass σ c.Answer).Runs m es r m' ↔
      ∃ reply : Except Error c.Answer, es = [⟨.call c, reply⟩] ∧ r = reply.mapError .error ∧ m' = m := by
  refine Interaction.runs_ask.trans ⟨?_, ?_⟩
  · rintro ⟨reply, rest, rfl, h⟩
    obtain ⟨rfl, he⟩ := Interaction.runs_done.1 h
    exact ⟨reply, rfl, Prod.mk.inj he⟩
  · rintro ⟨reply, rfl, rfl, rfl⟩
    exact ⟨reply, [], rfl, .done _⟩

/-- A run of two passes is one of the first that ends in a result, followed by one of the second, or a run of the first
that fails. -/
theorem runs_bind {p : Pass σ α} {f : α → Pass σ β} {r : Except Failure β} :
    (p >>= f).Runs m es r m' ↔
      (∃ es₁ es₂ a m₁, es = es₁ ++ es₂ ∧ p.Runs m es₁ (.ok a) m₁ ∧ (f a).Runs m₁ es₂ r m') ∨
        ∃ e, r = .error e ∧ p.Runs m es (.error e) m' := by
  simp only [Runs, ExceptT.run_bind, StateT.run_bind, Interaction.runs_bind]
  constructor
  · rintro ⟨es₁, es₂, ⟨_ | _, _⟩, rfl, hp, hf⟩
    · obtain ⟨rfl, h⟩ := Interaction.runs_done.1 hf
      obtain ⟨rfl, rfl⟩ := Prod.mk.inj h
      exact .inr ⟨_, rfl, by simpa using hp⟩
    · exact .inl ⟨es₁, es₂, _, _, rfl, hp, hf⟩
  · rintro (⟨es₁, es₂, a, m₁, rfl, hp, hf⟩ | ⟨e, rfl, hp⟩)
    · exact ⟨es₁, es₂, _, rfl, hp, hf⟩
    · exact ⟨es, [], _, by simp, hp, .done _⟩

/-- A run of two passes that ends well is one of the first that does, followed by one of the second. -/
theorem runs_bind_ok {p : Pass σ α} {f : α → Pass σ β} {b : β} :
    (p >>= f).Runs m es (.ok b) m' ↔
      ∃ es₁ es₂ a m₁, es = es₁ ++ es₂ ∧ p.Runs m es₁ (.ok a) m₁ ∧ (f a).Runs m₁ es₂ (.ok b) m' := by
  rw [runs_bind]
  refine or_iff_left ?_
  rintro ⟨e, hr, -⟩
  cases hr

/-- An attempt goes through what the part does, and ends with its error as a result. -/
theorem runs_attempt {p : Pass σ α} {r : Except Failure (Except Error α)} :
    (attempt p).Runs m es r m' ↔
      (∃ a, r = .ok (.ok a) ∧ p.Runs m es (.ok a) m') ∨
        (∃ e, r = .ok (.error e) ∧ p.Runs m es (.error (.error e)) m') ∨
        ∃ o, r = .error (.overflow o) ∧ p.Runs m es (.error (.overflow o)) m' := by
  simp only [Runs, attempt, ExceptT.run_mk, StateT.run_bind, Interaction.runs_bind]
  constructor
  · rintro ⟨es₁, es₂, ⟨(e | o) | a, _⟩, rfl, hp, hf⟩ <;> obtain ⟨rfl, he⟩ := Interaction.runs_done.1 hf <;>
      obtain ⟨rfl, rfl⟩ := Prod.mk.inj he <;> rw [List.append_nil]
    · exact .inr (.inl ⟨e, rfl, hp⟩)
    · exact .inr (.inr ⟨o, rfl, hp⟩)
    · exact .inl ⟨a, rfl, hp⟩
  · rintro (⟨a, rfl, hp⟩ | ⟨e, rfl, hp⟩ | ⟨o, rfl, hp⟩)
    all_goals exact ⟨es, [], _, (List.append_nil es).symm, hp, .done _⟩

/-- An attempted call always ends in its reply. -/
theorem runs_attempt_call {c : Call} {r : Except Failure (Except Error c.Answer)} :
    (attempt (call c) : Pass σ _).Runs m es r m' ↔
      ∃ reply, es = [⟨.call c, reply⟩] ∧ r = .ok reply ∧ m' = m := by
  simp only [runs_attempt, runs_call]
  constructor
  · rintro (⟨a, rfl, reply, rfl, hr, rfl⟩ | ⟨e, rfl, reply, rfl, hr, rfl⟩ | ⟨o, rfl, reply, rfl, hr, rfl⟩) <;>
      rcases reply with e | a <;> cases hr
    · exact ⟨_, rfl, rfl, rfl⟩
    · exact ⟨_, rfl, rfl, rfl⟩
  · rintro ⟨e | a, rfl, rfl, rfl⟩
    · exact .inr (.inl ⟨e, rfl, .error e, rfl, rfl, rfl⟩)
    · exact .inl ⟨a, rfl, .ok a, rfl, rfl, rfl⟩

/-- A pass that begins with a question goes on with whatever the reply is. -/
theorem runs_ask_bind {e : Effect} {f : e.Reply → Pass σ α} :
    (ask e >>= f).Runs m es r m' ↔ ∃ reply rest, es = ⟨e, reply⟩ :: rest ∧ (f reply).Runs m rest r m' := by
  rw [runs_bind]
  constructor
  · rintro (⟨_, rest, a, _, rfl, hask, hf⟩ | ⟨_, rfl, hask⟩) <;> obtain ⟨reply, rfl, hr, rfl⟩ := runs_ask.1 hask <;>
      cases hr
    exact ⟨a, rest, rfl, hf⟩
  · rintro ⟨reply, rest, rfl, hf⟩
    exact .inl ⟨_, rest, reply, m, rfl, runs_ask.2 ⟨reply, rfl, rfl, rfl⟩, hf⟩

/-- A pass that begins with a call ends there if the call fails, and goes on with its answer otherwise. -/
theorem runs_call_bind {c : Call} {f : c.Answer → Pass σ α} :
    (call c >>= f).Runs m es r m' ↔
      (∃ (e : Error), es = [⟨.call c, .error e⟩] ∧ r = .error (.error e) ∧ m' = m) ∨
        ∃ (a : c.Answer) (rest : List Exchange), es = ⟨.call c, .ok a⟩ :: rest ∧ (f a).Runs m rest r m' := by
  rw [runs_bind]
  constructor
  · rintro (⟨_, rest, a, _, rfl, hcall, hf⟩ | ⟨_, rfl, hcall⟩) <;>
      obtain ⟨e | a, rfl, hr, rfl⟩ := runs_call.1 hcall <;> cases hr
    · exact .inr ⟨a, rest, rfl, hf⟩
    · exact .inl ⟨e, rfl, rfl, rfl⟩
  · rintro (⟨e, rfl, rfl, rfl⟩ | ⟨a, rest, rfl, hf⟩)
    · exact .inr ⟨_, rfl, runs_call.2 ⟨.error e, rfl, rfl, rfl⟩⟩
    · exact .inl ⟨[_], rest, a, m, rfl, runs_call.2 ⟨.ok a, rfl, rfl, rfl⟩, hf⟩

/-- A pass that begins with a call and ends well was given an answer. -/
theorem runs_call_bind_ok {c : Call} {f : c.Answer → Pass σ β} {b : β} :
    (call c >>= f).Runs m es (.ok b) m' ↔
      ∃ (a : c.Answer) (rest : List Exchange), es = ⟨.call c, .ok a⟩ :: rest ∧ (f a).Runs m rest (.ok b) m' := by
  rw [runs_call_bind]
  refine or_iff_right ?_
  rintro ⟨e, -, hr, -⟩
  cases hr

/-- A pass that begins with an attempted call goes on with its reply in any case. -/
theorem runs_attempt_call_bind {c : Call} {f : Except Error c.Answer → Pass σ α} :
    (attempt (call c) >>= f).Runs m es r m' ↔
      ∃ (reply : Except Error c.Answer) (rest : List Exchange),
        es = ⟨.call c, reply⟩ :: rest ∧ (f reply).Runs m rest r m' := by
  rw [runs_bind]
  constructor
  · rintro (⟨_, rest, a, _, rfl, hcall, hf⟩ | ⟨_, rfl, hcall⟩) <;>
      obtain ⟨reply, rfl, hr, rfl⟩ := runs_attempt_call.1 hcall <;> cases hr
    exact ⟨a, rest, rfl, hf⟩
  · rintro ⟨reply, rest, rfl, hf⟩
    exact .inl ⟨_, rest, reply, m, rfl, runs_attempt_call.2 ⟨reply, rfl, rfl, rfl⟩, hf⟩

/-- A pass that begins with the result of a computation ends there if there is none. -/
theorem runs_orFail_bind {x : Except Failure β} {f : β → Pass σ α} :
    (orFail x >>= f).Runs m es r m' ↔
      (∃ e, x = .error e ∧ es = [] ∧ r = .error e ∧ m' = m) ∨ ∃ b, x = .ok b ∧ (f b).Runs m es r m' := by
  rw [runs_bind]
  constructor
  · rintro (⟨_, _, b, _, rfl, hx, hf⟩ | ⟨e, rfl, hx⟩) <;> obtain ⟨rfl, rfl, rfl⟩ := runs_orFail.1 hx
    · exact .inr ⟨b, rfl, hf⟩
    · exact .inl ⟨e, rfl, rfl, rfl, rfl⟩
  · rintro (⟨e, rfl, rfl, rfl, rfl⟩ | ⟨b, rfl, hf⟩)
    · exact .inr ⟨e, rfl, runs_orFail.2 ⟨rfl, rfl, rfl⟩⟩
    · exact .inl ⟨[], es, b, m, rfl, runs_orFail.2 ⟨rfl, rfl, rfl⟩, hf⟩

/-- A pass that begins with the result of a computation and ends well has it. -/
theorem runs_orFail_bind_ok {x : Except Failure β} {f : β → Pass σ α} {a : α} :
    (orFail x >>= f).Runs m es (.ok a) m' ↔ ∃ b, x = .ok b ∧ (f b).Runs m es (.ok a) m' := by
  rw [runs_orFail_bind]
  refine or_iff_right ?_
  rintro ⟨e, -, -, hr, -⟩
  cases hr

/-- A pass that begins with a result of arithmetic ends there if there is none. -/
theorem runs_orOverflow_bind {x : Except Overflow β} {f : β → Pass σ α} :
    (orOverflow x >>= f).Runs m es r m' ↔
      (∃ o, x = .error o ∧ es = [] ∧ r = .error (.overflow o) ∧ m' = m) ∨ ∃ b, x = .ok b ∧ (f b).Runs m es r m' := by
  have h : (orOverflow x : Pass σ β) = orFail (x.mapError .overflow) := by cases x <;> rfl
  rw [h, runs_orFail_bind]
  cases x <;> simp [Except.mapError]

@[simp] theorem runs_mapM_nil {f : α → Pass σ β} {r : Except Failure (List β)} :
    (([] : List α).mapM f).Runs m es r m' ↔ es = [] ∧ r = .ok [] ∧ m' = m := by
  rw [List.mapM_nil, runs_pure]

/-- A run over a list is a run on its head and, if that does not fail, one over its tail. -/
theorem runs_mapM_cons {f : α → Pass σ β} {x : α} {xs : List α} {r : Except Failure (List β)} :
    ((x :: xs).mapM f).Runs m es r m' ↔
      (∃ es₁ es₂ b m₁ r₂, es = es₁ ++ es₂ ∧ (f x).Runs m es₁ (.ok b) m₁ ∧ (xs.mapM f).Runs m₁ es₂ r₂ m' ∧
          r = r₂.map (b :: ·)) ∨
        ∃ e, r = .error e ∧ (f x).Runs m es (.error e) m' := by
  rw [List.mapM_cons, runs_bind]
  refine or_congr_left ?_
  simp only [runs_bind, runs_pure]
  constructor
  · rintro ⟨es₁, es₂, b, m₁, rfl, hx, ⟨es₃, _, bs, _, rfl, hxs, rfl, rfl, rfl⟩ | ⟨e, rfl, hxs⟩⟩
    · exact ⟨es₁, es₃, b, m₁, .ok bs, by simp, hx, hxs, rfl⟩
    · exact ⟨es₁, es₂, b, m₁, .error e, rfl, hx, hxs, rfl⟩
  · rintro ⟨es₁, es₂, b, m₁, e | bs, rfl, hx, hxs, rfl⟩
    · exact ⟨es₁, es₂, b, m₁, rfl, hx, .inr ⟨e, rfl, hxs⟩⟩
    · exact ⟨es₁, es₂, b, m₁, rfl, hx, .inl ⟨es₂, [], bs, m', by simp, hxs, rfl, rfl, rfl⟩⟩

/-- Where no part can fail, all of them are gone through. -/
theorem ok_of_forM {f : α → Pass σ PUnit} {xs : List α} {r : Except Failure PUnit}
    (hf : ∀ x m es r m', (f x).Runs m es r m' → r = .ok ⟨⟩) (h : (xs.forM f).Runs m es r m') : r = .ok ⟨⟩ := by
  induction xs generalizing m es with
  | nil =>
    obtain ⟨-, rfl, -⟩ := runs_pure.1 h
    rfl
  | cons x xs ih =>
    rcases runs_bind.1 h with ⟨_, _, _, _, rfl, -, hrest⟩ | ⟨e, rfl, hfirst⟩
    · exact ih hrest
    · cases hf _ _ _ _ _ hfirst

/-- Where no part can fail, all of them are gone through, each for its result. -/
theorem ok_of_mapM {f : α → Pass σ β} {xs : List α} {r : Except Failure (List β)}
    (hf : ∀ x m es r m', (f x).Runs m es r m' → ∃ b, r = .ok b) (h : (xs.mapM f).Runs m es r m') :
    ∃ bs, r = .ok bs := by
  induction xs generalizing m es r with
  | nil =>
    obtain ⟨-, rfl, -⟩ := runs_mapM_nil.1 h
    exact ⟨[], rfl⟩
  | cons x xs ih =>
    rcases runs_mapM_cons.1 h with ⟨_, _, b, _, _, rfl, -, hrest, rfl⟩ | ⟨e, rfl, hfirst⟩
    · obtain ⟨bs, rfl⟩ := ih hrest
      exact ⟨b :: bs, rfl⟩
    · obtain ⟨_, hr⟩ := hf _ _ _ _ _ hfirst
      cases hr

/-- Attempts that lost against another writer, each with the time let pass after it. -/
inductive Lost (p : Pass σ α) : σ → List Exchange → σ → Prop where
  | none (m : σ) : Lost p m [] m
  | next {m m₁ m₂ : σ} {es fs : List Exchange} {e : Error} (past : Nat) (attempt : p.Runs m es (.error (.error e)) m₁)
      (conflict : e.isConflict = true) (rest : Lost p m₁ fs m₂) :
      Lost p m (es ++ ⟨.wait (.conflict past), ()⟩ :: fs) m₂

/-- An attempt at a write and up to `more` further ones, after so many that lost. -/
def repeated (p : Pass σ α) (more past : Nat) : Pass σ α :=
  .mk (retryFrom conflicts (fun past ↦ do let _ ← (wait (.conflict past)).run) p.run more past)

theorem retryOnConflict_eq (limit : UInt32) (p : Pass σ α) :
    retryOnConflict limit p = repeated p (limit.toNat - 1) 0 := rfl

/-- What follows an attempt: nothing more, unless it lost. -/
def orAgain (again : Pass σ α) : Except Error α → Pass σ α
  | .ok a => pure a
  | .error e => if e.isConflict then again else fail e

/-- Only an attempt that lost is followed by another one. -/
theorem repeated_succ (p : Pass σ α) (more past : Nat) : repeated p (more + 1) past =
    attempt p >>= orAgain (wait (.conflict past) >>= fun _ ↦ repeated p more (past + 1)) := by
  refine ExceptT.ext (StateT.ext fun m ↦ ?_)
  simp only [repeated, retryFrom, ExceptT.run_mk, ExceptT.run_bind, attempt, StateT.run_bind, bind_assoc]
  congr 1
  funext left
  obtain ⟨(e | o) | a, m₁⟩ := left
  · change _ = StateT.run (ExceptT.run (if e.isConflict then _ else _)) m₁
    by_cases he : e.isConflict
    · simp only [conflicts, he, if_true]
      rfl
    · simp only [conflicts, he, Bool.false_eq_true, if_false]
      rfl
  · rfl
  · rfl

private theorem runs_repeated {p : Pass σ α} {more past : Nat} (h : (repeated p more past).Runs m es r m') :
    ∃ lost last m₁, es = lost ++ last ∧ Lost p m lost m₁ ∧ p.Runs m₁ last r m' := by
  induction more generalizing past m es with
  | zero => exact ⟨[], es, m, rfl, .none m, h⟩
  | succ more ih =>
    rw [repeated_succ] at h
    rcases runs_bind.1 h with ⟨es₁, es₂, _, m₁, rfl, hattempt, hrest⟩ | ⟨f, rfl, hattempt⟩
    · rcases runs_attempt.1 hattempt with ⟨a, hr, hp⟩ | ⟨e, hr, hp⟩ | ⟨_, hr, -⟩ <;> cases hr
      · obtain ⟨rfl, rfl, rfl⟩ := runs_pure.1 hrest
        exact ⟨[], es₁, m, by simp, .none m, hp⟩
      · by_cases he : e.isConflict
        · simp only [orAgain, he, if_true] at hrest
          obtain ⟨_, fs, rfl, hagain⟩ := runs_ask_bind.1 hrest
          obtain ⟨lost, last, m₂, rfl, hlost, hlast⟩ := ih hagain
          exact ⟨_, last, m₂, by simp, .next past hp he hlost, hlast⟩
        · simp only [orAgain, he, Bool.false_eq_true, if_false] at hrest
          obtain ⟨rfl, rfl, rfl⟩ := runs_fail.1 hrest
          exact ⟨[], es₁, m, by simp, .none m, hp⟩
    · rcases runs_attempt.1 hattempt with ⟨_, hr, -⟩ | ⟨_, hr, -⟩ | ⟨o, hr, hp⟩ <;> cases hr
      exact ⟨[], es, m, rfl, .none m, hp⟩

/-- A repeated write is made of attempts that lost and a last one, which decides how it ends. -/
theorem Runs.retryOnConflict {limit : UInt32} {p : Pass σ α} (h : (retryOnConflict limit p).Runs m es r m') :
    ∃ lost last m₁, es = lost ++ last ∧ Lost p m lost m₁ ∧ p.Runs m₁ last r m' :=
  runs_repeated h

/-- An attempt at a write that succeeds is the last one. -/
theorem Runs.retryOnConflict_ok {limit : UInt32} {p : Pass σ α} {a : α} (h : p.Runs m es (.ok a) m') :
    (Pass.retryOnConflict limit p).Runs m es (.ok a) m' := by
  rw [retryOnConflict_eq]
  cases limit.toNat - 1 with
  | zero => exact h
  | succ more =>
    rw [repeated_succ]
    have hattempt : (attempt p).Runs m es (.ok (.ok a)) m' := runs_attempt.2 (.inl ⟨a, rfl, h⟩)
    exact runs_bind.2 (.inl ⟨es, [], .ok a, m', by simp, hattempt, runs_pure.2 ⟨rfl, rfl, rfl⟩⟩)

@[simp] theorem runs_get {r : Except Failure σ} :
    (get : Pass σ σ).Runs m es r m' ↔ es = [] ∧ r = .ok m ∧ m' = m :=
  Interaction.runs_done.trans (and_congr_right fun _ ↦ Prod.ext_iff)

@[simp] theorem runs_modify {change : σ → σ} {r : Except Failure Unit} :
    (modify change : Pass σ Unit).Runs m es r m' ↔ es = [] ∧ r = .ok () ∧ m' = change m :=
  Interaction.runs_done.trans (and_congr_right fun _ ↦ Prod.ext_iff)

/-- Looking at the memory is no exchange. -/
theorem runs_get_bind {f : σ → Pass σ α} : (get >>= f).Runs m es r m' ↔ (f m).Runs m es r m' := Iff.rfl

/-- Changing the memory is no exchange. -/
theorem runs_modify_bind {change : σ → σ} {f : Unit → Pass σ α} :
    (modify change >>= f).Runs m es r m' ↔ (f ()).Runs (change m) es r m' := Iff.rfl

/-- A part with a memory of its own changes nothing else in the larger one. -/
theorem runs_focus {get : σ → τ} {set : τ → σ → σ} {p : Pass τ α} :
    (focus get set p).Runs m es r m' ↔ ∃ part, p.Runs (get m) es r part ∧ m' = set part m := by
  change Interaction.Runs (p.run.run (get m) >>= fun result ↦ pure (result.1, set result.2 m)) es (r, m') ↔ _
  rw [Interaction.runs_bind]
  constructor
  · rintro ⟨es₁, es₂, ⟨result, part⟩, rfl, hp, hend⟩
    obtain ⟨rfl, he⟩ := Interaction.runs_done.1 hend
    obtain ⟨rfl, rfl⟩ := Prod.mk.inj he
    rw [List.append_nil]
    exact ⟨part, hp, rfl⟩
  · rintro ⟨part, hp, rfl⟩
    exact ⟨es, [], (r, part), (List.append_nil es).symm, hp, .done _⟩

/-- Whatever the replies are, a pass makes no other calls than such. -/
def Asks (P : Call → Prop) (p : Pass σ α) : Prop := ∀ m es r m', p.Runs m es r m' → ∀ c ∈ calls es, P c

namespace Asks

variable {P : Call → Prop} {p : Pass σ α} {f : α → Pass σ β}

theorem pure (a : α) : Asks P (pure a : Pass σ α) := by
  intro m es r m' h
  obtain ⟨rfl, -, -⟩ := runs_pure.1 h
  simp

theorem fail (e : Error) : Asks P (fail e : Pass σ α) := by
  intro m es r m' h
  obtain ⟨rfl, -, -⟩ := runs_fail.1 h
  simp

theorem get : Asks P (get : Pass σ σ) := by
  intro m es r m' h
  obtain ⟨rfl, -, -⟩ := runs_get.1 h
  simp

theorem modify (change : σ → σ) : Asks P (modify change : Pass σ Unit) := by
  intro m es r m' h
  obtain ⟨rfl, -, -⟩ := runs_modify.1 h
  simp

theorem call {c : Call} (hc : P c) : Asks P (call c : Pass σ c.Answer) := by
  intro m es r m' h
  obtain ⟨reply, rfl, -, -⟩ := runs_call.1 h
  simpa using hc

theorem bind (hp : Asks P p) (hf : ∀ a, Asks P (f a)) : Asks P (p >>= f) := by
  intro m es r m' h
  rcases Pass.runs_bind.1 h with ⟨es₁, es₂, a, m₁, rfl, hfirst, hsecond⟩ | ⟨_, _, hfirst⟩
  · simpa [or_imp, forall_and] using ⟨hp _ _ _ _ hfirst, hf a _ _ _ _ hsecond⟩
  · exact hp _ _ _ _ hfirst

/-- A pass that begins with a part ends there if the part fails, and has made the calls of the part in any case. -/
theorem runs_bind {r : Except Failure β} (hp : Asks P p) (h : (p >>= f).Runs m es r m') :
    ((∃ e, r = .error e) ∧ ∀ c ∈ calls es, P c) ∨
      ∃ es₁ es₂ a m₁, es = es₁ ++ es₂ ∧ (∀ c ∈ calls es₁, P c) ∧ (f a).Runs m₁ es₂ r m' := by
  rcases Pass.runs_bind.1 h with ⟨es₁, es₂, a, m₁, rfl, hfirst, hsecond⟩ | ⟨e, rfl, hfirst⟩
  · exact .inr ⟨es₁, es₂, a, m₁, rfl, hp _ _ _ _ hfirst, hsecond⟩
  · exact .inl ⟨⟨e, rfl⟩, hp _ _ _ _ hfirst⟩

theorem attempt (hp : Asks P p) : Asks P (attempt p) := by
  intro m es r m' h
  rcases runs_attempt.1 h with ⟨_, _, h⟩ | ⟨_, _, h⟩ | ⟨_, _, h⟩ <;> exact hp _ _ _ _ h

theorem mapM_of_mem {f : α → Pass σ β} {xs : List α} (hf : ∀ a ∈ xs, Asks P (f a)) : Asks P (xs.mapM f) := by
  induction xs with
  | nil =>
    intro m es r m' h
    obtain ⟨rfl, -, -⟩ := runs_mapM_nil.1 h
    simp
  | cons x xs ih =>
    rw [List.mapM_cons]
    obtain ⟨hx, hxs⟩ := List.forall_mem_cons.1 hf
    exact hx.bind fun b ↦ (ih hxs).bind fun bs ↦ pure (b :: bs)

theorem mapM {f : α → Pass σ β} (hf : ∀ a, Asks P (f a)) (xs : List α) : Asks P (xs.mapM f) :=
  mapM_of_mem fun a _ ↦ hf a

theorem forM {f : α → Pass σ PUnit} (hf : ∀ a, Asks P (f a)) (xs : List α) : Asks P (xs.forM f) := by
  induction xs with
  | nil => exact pure _
  | cons x xs ih => exact (hf x).bind fun _ ↦ ih

/-- What is no call asks for none. -/
theorem aside {e : Effect} (he : ∀ reply, Exchange.call? ⟨e, reply⟩ = none) : Asks P (ask e : Pass σ e.Reply) := by
  intro m es r m' h
  obtain ⟨reply, rfl, -, -⟩ := runs_ask.1 h
  simp only [calls, List.filterMap_cons, he, List.filterMap_nil]
  exact List.forall_mem_nil P

/-- A pass that begins with the result of a computation makes calls only if there is one. -/
theorem orFail_bind {x : Except Failure α} (hf : ∀ a, x = .ok a → Asks P (f a)) : Asks P (orFail x >>= f) := by
  intro m es r m' h
  rcases runs_orFail_bind.1 h with ⟨e, hx, rfl, -, -⟩ | ⟨a, hx, hrest⟩
  · exact List.forall_mem_nil P
  · exact hf a hx m es r m' hrest

/-- A pass that begins with a result of arithmetic makes calls only if there is one. -/
theorem orOverflow_bind {x : Except Overflow α} (hf : ∀ a, x = .ok a → Asks P (f a)) :
    Asks P (orOverflow x >>= f) := by
  intro m es r m' h
  rcases runs_orOverflow_bind.1 h with ⟨o, hx, rfl, -, -⟩ | ⟨a, hx, hrest⟩
  · exact List.forall_mem_nil P
  · exact hf a hx m es r m' hrest

private theorem lost (hp : Asks P p) (h : Lost p m es m') : ∀ c ∈ calls es, P c := by
  induction h with
  | none m => exact List.forall_mem_nil P
  | next past attempt conflict rest ih =>
    intro c hc
    rcases mem_calls_append.1 hc with hc | hc
    · exact hp _ _ _ _ attempt c hc
    · exact ih c hc

/-- Repeating a write asks for nothing else than the write does. -/
theorem retryOnConflict {limit : UInt32} (hp : Asks P p) : Asks P (Pass.retryOnConflict limit p) := by
  intro m es r m' h c hc
  obtain ⟨before, last, m₁, rfl, hlost, hlast⟩ := Runs.retryOnConflict h
  rcases mem_calls_append.1 hc with hc | hc
  · exact lost hp hlost c hc
  · exact hp _ _ _ _ hlast c hc

end Asks

end Pass

end GaleraOperator
