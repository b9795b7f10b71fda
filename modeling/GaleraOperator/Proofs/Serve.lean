import GaleraOperator.Api.Store
import GaleraOperator.Proofs.Run

/-!
# Servers

What a server may answer that performs every call it does not refuse, and what it holds afterwards. Nobody else changes
what it holds, so reading changes nothing. Which calls are refused, and with what, is left open: a statement on all that
`Serves` admits is one on every pattern of refusals. `Store.surroundings` is the server that refuses nothing.
-/

namespace GaleraOperator

/-- A call that changes nothing. -/
theorem Store.perform_of_not_isWrite {c : Call} (s : Store) (h : c.isWrite = false) : (s.perform c).2 = s := by
  cases c <;> first | rfl | cases h

namespace Store

variable {s t u : Store} {x : Exchange} {es fs : List Exchange}

/-- A server may answer so, and then hold what it holds: a call is refused and has no effect, or it is performed.
Whatever is not a call is none of its business. -/
def Answers (s : Store) (x : Exchange) (t : Store) : Prop :=
  match x with
  | ⟨.call c, reply⟩ =>
    (∃ fault, reply = .error (.call fault) ∧ t = s) ∨ (reply = .ok (s.perform c).1 ∧ t = (s.perform c).2)
  | _ => t = s

/-- A server may give the replies of exchanges, one after the other, and then hold what it holds. -/
def Serves : Store → List Exchange → Store → Prop
  | s, [], t => t = s
  | s, x :: es, t => ∃ u, s.Answers x u ∧ u.Serves es t

@[simp] theorem serves_nil : s.Serves [] t ↔ t = s := Iff.rfl

theorem serves_cons : s.Serves (x :: es) t ↔ ∃ u, s.Answers x u ∧ u.Serves es t := Iff.rfl

theorem serves_append : s.Serves (es ++ fs) t ↔ ∃ u, s.Serves es u ∧ u.Serves fs t := by
  induction es generalizing s with
  | nil => simp
  | cons x es ih =>
    simp only [List.cons_append, serves_cons, ih]
    constructor
    · rintro ⟨v, hx, w, hes, hfs⟩
      exact ⟨w, ⟨v, hx, hes⟩, hfs⟩
    · rintro ⟨w, ⟨v, hx, hes⟩, hfs⟩
      exact ⟨v, hx, w, hes, hfs⟩

/-- An answer was given by performing the call. -/
theorem serves_ok {c : Call} {a : c.Answer} :
    s.Serves (⟨.call c, .ok a⟩ :: es) t ↔ a = (s.perform c).1 ∧ (s.perform c).2.Serves es t := by
  rw [serves_cons]
  constructor
  · rintro ⟨_, ⟨_, hr, _⟩ | ⟨hr, rfl⟩, hes⟩
    · cases hr
    · exact ⟨Except.ok.inj hr, hes⟩
  · rintro ⟨rfl, hes⟩
    exact ⟨_, .inr ⟨rfl, rfl⟩, hes⟩

/-- An error says that the call was refused, which had no effect. -/
theorem serves_error {c : Call} {e : Error} :
    s.Serves (⟨.call c, .error e⟩ :: es) t ↔ (∃ fault, e = .call fault) ∧ s.Serves es t := by
  rw [serves_cons]
  constructor
  · rintro ⟨_, ⟨fault, hr, rfl⟩ | ⟨hr, _⟩, hes⟩
    · exact ⟨⟨fault, Except.error.inj hr⟩, hes⟩
    · cases hr
  · rintro ⟨⟨fault, rfl⟩, hes⟩
    exact ⟨_, .inl ⟨fault, rfl, rfl⟩, hes⟩

/-- What every call keeps, if it is performed, holds in the end if it did at first. -/
theorem Serves.invariant {I : Store → Prop} (hs : s.Serves es t) (hI : I s)
    (h : ∀ c ∈ calls es, ∀ u : Store, I u → I (u.perform c).2) : I t := by
  induction es generalizing s with
  | nil =>
    obtain rfl : t = s := hs
    exact hI
  | cons x es ih =>
    obtain ⟨u, hx, hes⟩ := hs
    rw [calls_cons] at h
    refine ih hes ?_ fun c hc ↦ h c (List.mem_append_right _ hc)
    obtain ⟨e, reply⟩ := x
    cases e with
    | call c =>
      rcases hx with ⟨_, _, rfl⟩ | ⟨_, rfl⟩
      · exact hI
      · exact h c (by simp) s hI
    | now | wait | measure | touch => rwa [show u = s from hx]

/-- What none of the calls changes, if it is performed, stays as it was. -/
theorem Serves.frame {β : Type} (part : Store → β) (hs : s.Serves es t)
    (h : ∀ c ∈ calls es, ∀ u : Store, part (u.perform c).2 = part u) : part t = part s :=
  hs.invariant (I := fun u ↦ part u = part s) rfl fun c hc u hu ↦ (h c hc u).trans hu

/-- Reading changes nothing. -/
theorem Serves.eq_of_reads (hs : s.Serves es t) (h : Reads es) : t = s :=
  hs.frame id fun c hc u ↦ perform_of_not_isWrite u (h c hc)

/-- A server that refuses nothing, beside a clock that stands still. -/
def surroundings (clock : Instant) : Interaction.Surroundings Store
  | .call c, s => (.ok (s.perform c).1, (s.perform c).2)
  | .now, s => (clock, s)
  | .wait _, s | .measure .., s | .touch _, s => ((), s)

/-- A moment at which a clock may stand still. -/
def standstill : Instant := ⟨738000, 7200, 5, by decide, by decide⟩

/-- No call was refused. -/
def Granted (es : List Exchange) : Prop := ∀ (c : Call) (e : Error), ⟨.call c, .error e⟩ ∉ es

@[simp] theorem granted_nil : Granted [] := fun _ _ ↦ List.not_mem_nil

@[simp] theorem granted_append : Granted (es ++ fs) ↔ Granted es ∧ Granted fs := by
  simp [Granted, not_or, forall_and]

theorem granted_ok {c : Call} {a : c.Answer} : Granted [⟨.call c, .ok a⟩] := by
  intro c' e hmem
  cases List.mem_singleton.1 hmem

/-- A pass that begins with a call goes on with what the server answers, if nothing is refused. -/
theorem Granted.runs_call_bind {σ α : Type} {m m' : σ} {c : Call} {f : c.Answer → Pass σ α} {r : Except Failure α}
    (hgranted : Granted es) (h : (Pass.call c >>= f).Runs m es r m') (hs : s.Serves es t) :
    ∃ rest, es = ⟨.call c, .ok (s.perform c).1⟩ :: rest ∧ (f (s.perform c).1).Runs m rest r m' ∧
      (s.perform c).2.Serves rest t ∧ Granted rest := by
  rcases Pass.runs_call_bind.1 h with ⟨e, rfl, -, -⟩ | ⟨answer, rest, rfl, hrest⟩
  · exact absurd (List.mem_singleton_self _) (hgranted c e)
  · obtain ⟨rfl, hserves⟩ := serves_ok.1 hs
    exact ⟨rest, rfl, hrest, hserves, fun c' e hmem ↦ hgranted c' e (List.mem_cons_of_mem _ hmem)⟩

/-- A pass ended with the error of a call that was refused. -/
def Refused {α : Type} (es : List Exchange) (r : Except Failure α) : Prop :=
  ∃ (c : Call) (fault : CallFault), ⟨.call c, .error (.call fault)⟩ ∈ es ∧ r = .error (.error (.call fault))

theorem refused_self {α : Type} {c : Call} {fault : CallFault} :
    Refused (α := α) (⟨.call c, .error (.call fault)⟩ :: es) (.error (.error (.call fault))) :=
  ⟨c, fault, List.mem_cons_self .., rfl⟩

theorem Refused.error {α β : Type} {f : Failure} (h : Refused (α := α) es (.error f)) :
    Refused (α := β) es (.error f) := by
  obtain ⟨c, fault, hmem, hr⟩ := h
  cases hr
  exact ⟨c, fault, hmem, rfl⟩

theorem not_refused_ok {α : Type} {a : α} : ¬Refused es (.ok a) := by
  rintro ⟨_, _, _, hr⟩
  cases hr

theorem Refused.append {α : Type} {r : Except Failure α} (es : List Exchange) (h : Refused fs r) :
    Refused (es ++ fs) r := by
  obtain ⟨c, fault, hmem, hr⟩ := h
  exact ⟨c, fault, List.mem_append_right es hmem, hr⟩

theorem Refused.cons {α : Type} {r : Except Failure α} (h : Refused es r) : Refused (x :: es) r :=
  h.append [x]

theorem Granted.not_refused {α : Type} {r : Except Failure α} (h : Granted es) : ¬Refused es r := by
  rintro ⟨c, fault, hmem, -⟩
  exact h c _ hmem

theorem answers_surroundings (clock : Instant) (s : Store) (e : Effect) :
    s.Answers ⟨e, (surroundings clock e s).1⟩ (surroundings clock e s).2 := by
  cases e with
  | call c => exact .inr ⟨rfl, rfl⟩
  | now | wait | measure | touch => exact rfl

/-- The server that refuses nothing is a server. -/
theorem serves_course {α : Type} (clock : Instant) (p : Interaction α) (s : Store) :
    s.Serves (p.course (surroundings clock) s) (p.run (surroundings clock) s).2 := by
  induction p generalizing s with
  | done a => rfl
  | ask e next ih => exact ⟨_, answers_surroundings clock s e, ih _ _⟩

end Store

namespace Pass

variable {σ α β : Type} {I : Store → Prop} {P : Call → Prop} {p : Pass σ α} {f : α → Pass σ β}

/-- At a server of which something holds, whatever it refuses, a pass makes no other calls than such, and the same holds
of the server afterwards. -/
def Preserves (I : Store → Prop) (P : Call → Prop) (p : Pass σ α) : Prop :=
  ∀ m es r m' s t, p.Runs m es r m' → s.Serves es t → I s → I t ∧ ∀ c ∈ calls es, P c

namespace Preserves

/-- It is enough that every single call keeps what holds. -/
theorem of_asks (h : Asks (fun c ↦ P c ∧ ∀ s : Store, I s → I (s.perform c).2) p) : Preserves I P p := by
  intro m es r m' s t hrun hs hI
  have hcalls := h m es r m' hrun
  exact ⟨hs.invariant hI fun c hc ↦ (hcalls c hc).2, fun c hc ↦ (hcalls c hc).1⟩

theorem bind (hp : Preserves I P p) (hf : ∀ a, Preserves I P (f a)) : Preserves I P (p >>= f) := by
  intro m es r m' s t h hs hI
  rcases runs_bind.1 h with ⟨es₁, es₂, a, m₁, rfl, hfirst, hsecond⟩ | ⟨e, rfl, hfirst⟩
  · obtain ⟨u, hs₁, hs₂⟩ := Store.serves_append.1 hs
    obtain ⟨hu, hcalls₁⟩ := hp _ _ _ _ _ _ hfirst hs₁ hI
    obtain ⟨ht, hcalls₂⟩ := hf a _ _ _ _ _ _ hsecond hs₂ hu
    exact ⟨ht, by simpa [or_imp, forall_and] using ⟨hcalls₁, hcalls₂⟩⟩
  · exact hp _ _ _ _ _ _ hfirst hs hI

end Preserves

/-- A pass ends well only if none of its calls was refused. -/
def Strict (p : Pass σ α) : Prop := ∀ m es a m', p.Runs m es (.ok a) m' → Store.Granted es

namespace Strict

theorem pure (a : α) : Strict (pure a : Pass σ α) := by
  intro m es b m' h
  obtain ⟨rfl, -, -⟩ := runs_pure.1 h
  exact Store.granted_nil

theorem get : Strict (get : Pass σ σ) := by
  intro m es b m' h
  obtain ⟨rfl, -, -⟩ := runs_get.1 h
  exact Store.granted_nil

theorem modify (change : σ → σ) : Strict (modify change : Pass σ Unit) := by
  intro m es b m' h
  obtain ⟨rfl, -, -⟩ := runs_modify.1 h
  exact Store.granted_nil

theorem call (c : Call) : Strict (call c : Pass σ c.Answer) := by
  intro m es b m' h
  obtain ⟨e | a, rfl, hr, -⟩ := runs_call.1 h
  · cases hr
  · exact Store.granted_ok

theorem bind (hp : Strict p) (hf : ∀ a, Strict (f a)) : Strict (p >>= f) := by
  intro m es b m' h
  obtain ⟨es₁, es₂, a, m₁, rfl, hfirst, hsecond⟩ := runs_bind_ok.1 h
  exact Store.granted_append.2 ⟨hp _ _ _ _ hfirst, hf a _ _ _ _ hsecond⟩

theorem mapM {f : α → Pass σ β} (hf : ∀ a, Strict (f a)) (xs : List α) : Strict (xs.mapM f) := by
  induction xs with
  | nil => exact pure []
  | cons x xs ih =>
    rw [List.mapM_cons]
    exact (hf x).bind fun b ↦ ih.bind fun bs ↦ pure (b :: bs)

theorem forM {f : α → Pass σ PUnit} (hf : ∀ a, Strict (f a)) (xs : List α) : Strict (xs.forM f) := by
  induction xs with
  | nil => exact pure _
  | cons x xs ih => exact (hf x).bind fun _ ↦ ih

end Strict

end Pass

end GaleraOperator
