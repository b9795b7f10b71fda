import GaleraOperator.Proofs.Replay
import GaleraOperator.Proofs.Serve

/-!
# Undisturbed work

The operator at a server that it has to itself, by a clock that stands still. The server performs every call; what is
asked of containers is answered by an executor, which may fail. Objects that the operator only looks at are the same
for as long as it does not write to them, and what it asks about them is answered the same.
-/

namespace GaleraOperator

namespace Call

/-- Whether a call asks something of a container: its log, or that it runs a command. -/
def entersContainer : Call → Bool
  | .logs .. | .exec .. => true
  | _ => false

/-- Whether a call only looks at pods and at what belongs to them. What is asked of a container changes nothing at the
server either. -/
def observes : Call → Bool
  | .listPods .. | .getPod .. | .getStatefulSet .. | .listClaims .. | .listEvents .. | .logs .. | .exec .. => true
  | _ => false

theorem isWrite_of_observes {c : Call} (h : c.observes = true) : c.isWrite = false := by
  cases c <;> first | rfl | cases h

end Call

/-- What answers for containers, and what becomes of it. -/
abbrev Executor (τ : Type) := (c : Call) → τ → Except Error c.Answer × τ

variable {τ : Type} {clock : Instant} {executor : Executor τ} {s t : Store} {x y : τ} {es : List Exchange}

/-- A server that performs every call, and an executor, beside a clock that stands still. -/
def undisturbed (clock : Instant) (executor : Executor τ) : Interaction.Surroundings (Store × τ)
  | .call c, (s, x) =>
    if c.entersContainer then ((executor c x).1, s, (executor c x).2) else (.ok (s.perform c).1, (s.perform c).2, x)
  | .now, w => (clock, w)
  | .wait _, w | .measure .., w | .touch _, w => ((), w)

/-- What is given by a server that refuses nothing is served by it, and none of it is refused. -/
theorem Store.granted_of_gives (hgives : Interaction.Gives (Store.surroundings clock) s es t) :
    s.Serves es t ∧ Store.Granted es := by
  induction es generalizing s with
  | nil => exact ⟨hgives, Store.granted_nil⟩
  | cons first es ih =>
    obtain ⟨e, reply⟩ := first
    obtain ⟨hreply, hrest⟩ := hgives
    obtain ⟨hserves, hgranted⟩ := ih hrest
    have hanswer := Store.answers_surroundings clock s e
    rw [hreply] at hanswer
    refine ⟨⟨_, hanswer, hserves⟩, ?_⟩
    intro c error hmem
    rcases List.mem_cons.1 hmem with hfirst | hmem
    · cases hfirst
      cases hreply
    · exact hgranted c error hmem

namespace Undisturbed

open Interaction

/-- The second of two states differs from the first at most in clusters, jobs and records of backups. -/
def Alike (w v : Store × τ) : Prop :=
  ∃ clusters jobs records, v = ({ w.1 with clusters := clusters, cronJobs := jobs, backups := records }, w.2)

/-- Who only looks at pods and what belongs to them cannot tell such states apart. -/
theorem indistinct_of_observes (h : ∀ c ∈ calls es, c.observes = true) :
    Indistinct (undisturbed clock executor) Alike es := by
  rintro ⟨e, reply⟩ hx w _ ⟨clusters, jobs, records, rfl⟩
  cases e with
  | call c =>
    have hc : c.observes = true := h c (mem_calls.2 ⟨reply, hx⟩)
    cases c <;> first | exact ⟨rfl, clusters, jobs, records, rfl⟩ | cases hc
  | now | wait | measure | touch => exact ⟨rfl, clusters, jobs, records, rfl⟩

/-- What is not written to stays as it is. -/
theorem store_of_reads {w v : Store × τ} (hgives : Gives (undisturbed clock executor) w es v) (h : Reads es) :
    v.1 = w.1 := by
  induction es generalizing w with
  | nil => exact congrArg Prod.fst hgives
  | cons first es ih =>
    obtain ⟨hfirst, hes⟩ := reads_cons.1 h
    obtain ⟨-, hrest⟩ := hgives
    rw [ih hrest hes]
    obtain ⟨e, reply⟩ := first
    cases e with
    | call c =>
      by_cases hc : c.entersContainer
      · simp only [undisturbed, hc, if_true]
      · simp only [undisturbed, hc, Bool.false_eq_true, if_false]
        exact Store.perform_of_not_isWrite _ (hfirst c rfl)
    | now | wait | measure | touch => rfl

/-- Looking is no writing. -/
theorem reads_of_observes (h : ∀ c ∈ calls es, c.observes = true) : Reads es :=
  fun c hc ↦ Call.isWrite_of_observes (h c hc)

/-- Where no container is entered, the server performs every call. -/
theorem serves_of_gives (hgives : Gives (undisturbed clock executor) (s, x) es (t, y))
    (h : ∀ c ∈ calls es, c.entersContainer = false) : s.Serves es t ∧ Store.Granted es ∧ y = x := by
  induction es generalizing s with
  | nil =>
    obtain ⟨rfl, rfl⟩ := Prod.mk.inj hgives
    exact ⟨rfl, Store.granted_nil, rfl⟩
  | cons first es ih =>
    rw [calls_cons] at h
    have hes : ∀ c ∈ calls es, c.entersContainer = false := fun c hc ↦ h c (List.mem_append_right _ hc)
    obtain ⟨e, reply⟩ := first
    obtain ⟨hreply, hrest⟩ := hgives
    cases e with
    | call c =>
      have hc : c.entersContainer = false := h c (by simp)
      simp only [undisturbed, hc, Bool.false_eq_true, if_false] at hreply hrest
      subst hreply
      obtain ⟨hserves, hgranted, rfl⟩ := ih hrest hes
      exact ⟨Store.serves_ok.2 ⟨rfl, hserves⟩, Store.granted_append.2 ⟨Store.granted_ok, hgranted⟩, rfl⟩
    | now | wait | measure | touch =>
      obtain ⟨hserves, hgranted, rfl⟩ := ih hrest hes
      refine ⟨⟨s, rfl, hserves⟩, fun c e hmem ↦ ?_, rfl⟩
      exact hgranted c e ((List.mem_cons.1 hmem).resolve_left nofun)

/-- The clock stands still. -/
theorem time_of_gives {w v : Store × τ} {time : Instant} (hgives : Gives (undisturbed clock executor) w es v)
    (h : ⟨.now, time⟩ ∈ es) : time = clock := by
  induction es generalizing w with
  | nil => cases h
  | cons first es ih =>
    obtain ⟨hreply, hrest⟩ := hgives
    rcases List.mem_cons.1 h with rfl | h
    · exact hreply.symm
    · exact ih hrest h

end Undisturbed

namespace Pass

open Interaction Undisturbed

variable {σ α β : Type} {p : Pass σ α} {m m' n n' : σ} {es' : List Exchange} {r r' : Except Failure α}
  {w w' v v' : Store × τ}

/-- A pass that makes no use of its memory, gone through by only looking, goes the same in a state that is alike. -/
theorem Memoryless.replay_of_observes (hp : Memoryless p) (h : p.Runs m es r m')
    (hobserves : ∀ c ∈ calls es, c.observes = true) (hgives : Gives (undisturbed clock executor) w es v)
    (halike : Alike w w') (h' : p.Runs n es' r' n') (hgives' : Gives (undisturbed clock executor) w' es' v') :
    es' = es ∧ r' = r ∧ n' = n ∧ Alike v v' ∧ v'.1 = w'.1 := by
  obtain ⟨rfl, rfl, rfl, hv⟩ := hp.replay h hgives (indistinct_of_observes hobserves) halike h' hgives'
  exact ⟨rfl, rfl, rfl, hv, store_of_reads hgives' (reads_of_observes hobserves)⟩

/-- What follows such a part begins in states that are alike, too. -/
theorem Memoryless.replay_bind {f : α → Pass σ β} {a : α} {r : Except Failure β} (hp : Memoryless p)
    (h : p.Runs m es (.ok a) m') (hobserves : ∀ c ∈ calls es, c.observes = true)
    (hgives : Gives (undisturbed clock executor) w es v) (halike : Alike w w') (h' : (p >>= f).Runs n es' r n')
    (hgives' : Gives (undisturbed clock executor) w' es' v') :
    ∃ rest u, es' = es ++ rest ∧ Alike v u ∧ u.1 = w'.1 ∧ (f a).Runs n rest r n' ∧
      Gives (undisturbed clock executor) u rest v' := by
  rcases runs_bind.1 h' with ⟨es₁, rest, a', n₁, rfl, hfirst, hrest⟩ | ⟨e, rfl, hfirst⟩
  · obtain ⟨u, hgives₁, hgives₂⟩ := gives_append.1 hgives'
    obtain ⟨rfl, hr, rfl, hu, hsame⟩ := hp.replay_of_observes h hobserves hgives halike hfirst hgives₁
    cases hr
    exact ⟨rest, u, rfl, hu, hsame, hrest, hgives₂⟩
  · obtain ⟨-, hr, -⟩ := hp.replay_of_observes h hobserves hgives halike hfirst hgives'
    cases hr

/-- A pass that only looks, and makes no use of its memory. -/
structure Looks (p : Pass σ α) : Prop where
  memoryless : Memoryless p
  observes : Asks (fun c ↦ c.observes = true) p

namespace Looks

theorem pure (a : α) : Looks (pure a : Pass σ α) := ⟨.pure a, .pure a⟩

theorem fail (e : Error) : Looks (fail e : Pass σ α) := ⟨.fail e, .fail e⟩

theorem throw (f : Failure) : Looks (throw f : Pass σ α) := by
  refine ⟨.throw f, fun m es r m' h ↦ ?_⟩
  obtain ⟨rfl, -, -⟩ := runs_throw.1 h
  exact List.forall_mem_nil _

theorem call {c : Call} (hc : c.observes = true) : Looks (call c : Pass σ c.Answer) := ⟨.call c, .call hc⟩

theorem aside {e : Effect} (he : ∀ reply, Exchange.call? ⟨e, reply⟩ = none) : Looks (ask e : Pass σ e.Reply) :=
  ⟨.ask e, .aside he⟩

theorem orFail (x : Except Failure α) : Looks (orFail x : Pass σ α) := by
  cases x with
  | ok a => exact pure a
  | error f => exact throw f

theorem bind {f : α → Pass σ β} (hp : Looks p) (hf : ∀ a, Looks (f a)) : Looks (p >>= f) :=
  ⟨hp.memoryless.bind fun a ↦ (hf a).memoryless, hp.observes.bind fun a ↦ (hf a).observes⟩

theorem attempt (hp : Looks p) : Looks (attempt p) := ⟨hp.memoryless.attempt, hp.observes.attempt⟩

theorem mapM {f : α → Pass σ β} (hf : ∀ a, Looks (f a)) (xs : List α) : Looks (xs.mapM f) :=
  ⟨.mapM (fun a ↦ (hf a).memoryless) xs, .mapM (fun a ↦ (hf a).observes) xs⟩

theorem forM {f : α → Pass σ PUnit} (hf : ∀ a, Looks (f a)) (xs : List α) : Looks (xs.forM f) :=
  ⟨.forM (fun a ↦ (hf a).memoryless) xs, .forM (fun a ↦ (hf a).observes) xs⟩

theorem reads (hp : Looks p) (h : p.Runs m es r m') : Reads es := reads_of_observes (hp.observes m es r m' h)

end Looks

end Pass

end GaleraOperator
