import GaleraOperator.Proofs.Volume.Transition

/-!
# Amounts that are too large for a pass

A pass over volumes compares amounts in whole allocation units: the capacities of the data claims, what the StatefulSet
was made with, and what the cluster asks for. An amount among the last `2 ^ 30 - 1` byte counts below `2 ^ 64` can be read,
but not be rounded up. A pass has no outcome exactly if it comes to such an amount: if that is the first of the amounts
that it reads, in their order, that cannot be read in whole allocation units. Everything that it does after reading them
has an outcome.
-/

namespace GaleraOperator

open Kube Pass

namespace Pass

variable {σ α β : Type}

/-- No run of a pass ends for want of a result of arithmetic. -/
def Calm (p : Pass σ α) : Prop := ∀ m es r m', p.Runs m es r m' → ∀ o, r ≠ .error (.overflow o)

namespace Calm

variable {p : Pass σ α} {f : α → Pass σ β}

theorem pure (a : α) : Calm (pure a : Pass σ α) := by
  intro m es r m' h o
  obtain ⟨-, rfl, -⟩ := runs_pure.1 h
  exact nofun

theorem fail (e : Error) : Calm (fail e : Pass σ α) := by
  intro m es r m' h o
  obtain ⟨-, rfl, -⟩ := runs_fail.1 h
  exact nofun

theorem ask (e : Effect) : Calm (ask e : Pass σ e.Reply) := by
  intro m es r m' h o
  obtain ⟨reply, -, rfl, -⟩ := runs_ask.1 h
  exact nofun

theorem call (c : Call) : Calm (call c : Pass σ c.Answer) := by
  intro m es r m' h o
  obtain ⟨e | a, -, rfl, -⟩ := runs_call.1 h <;> exact nofun

theorem bind (hp : Calm p) (hf : ∀ a, Calm (f a)) : Calm (p >>= f) := by
  intro m es r m' h o
  rcases runs_bind.1 h with ⟨_, _, a, _, -, -, hsecond⟩ | ⟨e, rfl, hfirst⟩
  · exact hf a _ _ _ _ hsecond o
  · intro he
    cases he
    exact hp _ _ _ _ hfirst o rfl

theorem attempt (hp : Calm p) : Calm (attempt p) := by
  intro m es r m' h o
  rcases runs_attempt.1 h with ⟨_, rfl, -⟩ | ⟨_, rfl, -⟩ | ⟨o', -, hoverflow⟩
  · exact nofun
  · exact nofun
  · exact absurd rfl (hp _ _ _ _ hoverflow o')

theorem mapM_of_mem {f : α → Pass σ β} {xs : List α} (hf : ∀ a ∈ xs, Calm (f a)) : Calm (xs.mapM f) := by
  induction xs with
  | nil => exact pure []
  | cons x xs ih =>
    rw [List.mapM_cons]
    obtain ⟨hx, hxs⟩ := List.forall_mem_cons.1 hf
    exact hx.bind fun b ↦ (ih hxs).bind fun bs ↦ pure (b :: bs)

/-- What begins with a computation that has a result is calm if it is so with that result. -/
theorem orFail_bind {x : Except Failure α} {a : α} (hx : x = .ok a) (hf : Calm (f a)) : Calm (orFail x >>= f) := by
  subst hx
  exact hf

theorem orOverflow_bind {x : Except Overflow α} {a : α} (hx : x = .ok a) (hf : Calm (f a)) :
    Calm (orOverflow x >>= f) := by
  subst hx
  exact hf

theorem retryOnConflict {limit : UInt32} (hp : Calm p) : Calm (Pass.retryOnConflict limit p) := by
  intro m es r m' h
  obtain ⟨_, last, m₁, -, -, hlast⟩ := Runs.retryOnConflict h
  exact hp _ _ _ _ hlast

end Calm

theorem calm_changeCluster {settings : Settings} {ns name : String} {change : Cluster → Option Cluster} :
    Calm (changeCluster settings ns name change : Pass σ Unit) := by
  refine Calm.retryOnConflict (Calm.bind (Calm.bind (Calm.call _) fun latest ↦ ?_) fun latest ↦ ?_)
  · cases latest with
    | none => exact Calm.fail _
    | some latest => exact Calm.pure latest
  · split
    · exact Calm.pure ()
    · exact Calm.bind (Calm.call _) fun _ ↦ Calm.pure ()

end Pass

namespace Volume

variable {σ : Type} {m m' : σ} {es : List Exchange} {ns : String} {c : Cluster} {settings : Settings}
  {configured reason : String} {requested actual configuredBytes : Nat} {claims : List Claim}

/-! ## What comes after reading -/

theorem calm_rollBack {α : Type} : Calm (rollBack settings ns c configured reason : Pass σ α) := by
  refine Calm.bind (Calm.ask _) fun _ ↦ ?_
  refine Calm.bind calm_changeCluster fun _ ↦ ?_
  exact Calm.bind calm_changeCluster fun _ ↦ Calm.fail _

theorem calm_growClaim {claim : Claim} {capacity : Option Nat} {target : String}
    (hcapacity : capacityBytes claim = .ok capacity) (htarget : Quantity.ofBytes requested = .ok target) :
    Calm (growClaim settings ns c configured requested claim : Pass σ Bool) := by
  refine Calm.orFail_bind hcapacity ?_
  split
  · exact Calm.pure false
  · refine Calm.orOverflow_bind htarget (Calm.bind (Calm.attempt (Calm.call _)) fun reply ↦ ?_)
    cases reply with
    | ok answer => exact Calm.pure true
    | error e =>
      simp only
      split
      · exact calm_rollBack
      · exact Calm.fail e

theorem calm_start {target : String} (hclaims : ∀ claim ∈ claims, ∃ capacity, capacityBytes claim = .ok capacity)
    (htarget : Quantity.ofBytes requested = .ok target) :
    Calm (start settings ns c claims configured requested : Pass σ ResizeOutcome) := by
  refine Calm.bind (Calm.ask _) fun time ↦ ?_
  refine Calm.bind calm_changeCluster fun _ ↦ ?_
  refine Calm.bind (Calm.mapM_of_mem fun claim hclaim ↦ ?_) fun asked ↦ ?_
  · obtain ⟨capacity, hcapacity⟩ := hclaims claim hclaim
    exact calm_growClaim hcapacity htarget
  · exact Calm.bind (Calm.ask _) fun _ ↦ Calm.pure _

theorem calm_followUp {started : Instant}
    (hclaims : ∀ claim ∈ claims, ∃ capacity, capacityBytes claim = .ok capacity) :
    Calm (followUp settings ns c claims configured requested started : Pass σ ResizeOutcome) := by
  refine Calm.bind (Calm.mapM_of_mem fun claim hclaim ↦ ?_) fun progress ↦ ?_
  · refine Calm.bind (Calm.call _) fun events ↦ ?_
    obtain ⟨capacity, hcapacity⟩ := hclaims claim hclaim
    exact Calm.orFail_bind (congrArg (Except.map _) hcapacity) (Calm.pure _)
  · split
    · exact calm_rollBack
    · split
      · refine Calm.bind (Calm.call _) fun _ ↦ ?_
        refine Calm.bind calm_changeCluster fun _ ↦ ?_
        exact Calm.bind (Calm.ask _) fun _ ↦ Calm.pure _
      · exact Calm.pure _

theorem calm_refuseShrink {requestedText actualText : String}
    (hrequested : Quantity.ofBytes requested = .ok requestedText) (hactual : Quantity.ofBytes actual = .ok actualText) :
    Calm (refuseShrink settings ns c configured requested actual : Pass σ ResizeOutcome) := by
  refine Calm.bind calm_changeCluster fun _ ↦ ?_
  exact Calm.orOverflow_bind hrequested (Calm.orOverflow_bind hactual (Calm.fail _))

/-- Once all amounts were read in whole allocation units, a pass has an outcome. -/
theorem calm_decideOn {actualText : String} (hclaims : ∀ claim ∈ claims, ∃ capacity, capacityBytes claim = .ok capacity)
    (hactual : Quantity.ofBytes actual = .ok actualText)
    (hconfigured : Quantity.alignedBytes configured = .ok configuredBytes)
    (hrequested : Quantity.alignedBytes c.requestedStorage = .ok requested) :
    Calm (decideOn settings ns c claims actual configured : Pass σ ResizeOutcome) := by
  obtain ⟨target, htarget⟩ := Quantity.ofBytes_of_alignedBytes hrequested
  refine Calm.orFail_bind hconfigured (Calm.orFail_bind hrequested ?_)
  split
  · exact Calm.fail _
  · exact calm_followUp hclaims
  · split
    · exact calm_refuseShrink htarget hactual
    · split
      · exact Calm.pure _
      · exact calm_start hclaims htarget

/-! ## Amounts in the order in which they are read -/

/-- The first of some amounts that cannot be read in whole allocation units is too large. -/
inductive Stumbles : List String → Prop where
  | here {text : String} {texts : List String} (large : Quantity.IsTooLarge text) : Stumbles (text :: texts)
  | later {text : String} {texts : List String} {n : Nat} (read : Quantity.alignedBytes text = .ok n)
      (rest : Stumbles texts) : Stumbles (text :: texts)

theorem not_stumbles_nil : ¬Stumbles [] := nofun

theorem stumbles_cons_of_ok {text : String} {texts : List String} {n : Nat} (h : Quantity.alignedBytes text = .ok n) :
    Stumbles (text :: texts) ↔ Stumbles texts := by
  constructor
  · intro hstumbles
    cases hstumbles with
    | here large => cases h.symm.trans (Quantity.alignedBytes_eq_overflow_iff.2 ⟨rfl, large⟩)
    | later read rest => exact rest
  · exact .later h

theorem stumbles_cons_of_error {text : String} {texts : List String} {f : Failure}
    (h : Quantity.alignedBytes text = .error f) : Stumbles (text :: texts) ↔ ∃ o, f = .overflow o := by
  constructor
  · intro hstumbles
    cases hstumbles with
    | here large =>
      have hoverflow := Quantity.alignedBytes_eq_overflow_iff.2 ⟨rfl, large⟩
      exact ⟨_, Except.error.inj (h.symm.trans hoverflow)⟩
    | later read rest => cases h.symm.trans read
  · rintro ⟨o, rfl⟩
    exact .here (Quantity.alignedBytes_eq_overflow_iff.1 h).2

theorem Stumbles.append {texts : List String} (h : Stumbles texts) (more : List String) : Stumbles (texts ++ more) := by
  induction h with
  | here large => exact .here large
  | later read _ ih => exact .later read ih

/-- The capacities of claims, as far as they are known. -/
def capacityTexts (claims : List Claim) : List String := claims.filterMap Claim.capacity?

/-- Reading the capacities of claims overflows exactly if it comes to one that is too large. What comes after them
does not matter then, and only that matters if all capacities could be read. -/
theorem stumbles_capacityTexts (claims : List Claim) (texts : List String) :
    (∃ f, claims.mapM capacityBytes = .error f ∧ (Stumbles (capacityTexts claims ++ texts) ↔ ∃ o, f = .overflow o)) ∨
      (∃ capacities, claims.mapM capacityBytes = .ok capacities ∧
        (Stumbles (capacityTexts claims ++ texts) ↔ Stumbles texts)) := by
  induction claims with
  | nil => exact .inr ⟨[], rfl, Iff.rfl⟩
  | cons claim claims ih =>
    rw [List.mapM_cons]
    cases hcapacity : claim.capacity? with
    | none =>
      have hbytes : capacityBytes claim = .ok none := by simp [capacityBytes, hcapacity]
      have htexts : capacityTexts (claim :: claims) = capacityTexts claims := List.filterMap_cons_none hcapacity
      rw [hbytes, htexts]
      rcases ih with ⟨f, hf, hiff⟩ | ⟨capacities, hok, hiff⟩
      · exact .inl ⟨f, by rw [hf]; rfl, hiff⟩
      · exact .inr ⟨none :: capacities, by rw [hok]; rfl, hiff⟩
    | some text =>
      have htexts : capacityTexts (claim :: claims) = text :: capacityTexts claims := List.filterMap_cons_some hcapacity
      rw [htexts, List.cons_append]
      cases hread : Quantity.alignedBytes text with
      | error f =>
        have hbytes : capacityBytes claim = .error f := by simp only [capacityBytes, hcapacity, map_eq_error_iff, hread]
        exact .inl ⟨f, by rw [hbytes]; rfl, stumbles_cons_of_error hread⟩
      | ok n =>
        have hbytes : capacityBytes claim = .ok (some n) := by simp [capacityBytes, hcapacity, map_eq_ok_iff, hread]
        rw [hbytes, stumbles_cons_of_ok hread]
        rcases ih with ⟨f, hf, hiff⟩ | ⟨capacities, hok, hiff⟩
        · exact .inl ⟨f, by rw [hf]; rfl, hiff⟩
        · exact .inr ⟨some n :: capacities, by rw [hok]; rfl, hiff⟩

theorem stumbles_of_unreadable {f : Failure} (h : leastCapacity claims = .error f) (texts : List String) :
    Stumbles (capacityTexts claims ++ texts) ↔ ∃ o, f = .overflow o := by
  have hread := map_eq_error_iff.1 h
  obtain ⟨f', hf, hiff⟩ | ⟨capacities, hok, -⟩ := stumbles_capacityTexts claims texts
  · obtain rfl := Except.error.inj (hf.symm.trans hread)
    exact hiff
  · cases hok.symm.trans hread

theorem stumbles_of_readable {least : Option Nat} (h : leastCapacity claims = .ok least) (texts : List String) :
    Stumbles (capacityTexts claims ++ texts) ↔ Stumbles texts := by
  obtain ⟨_, hread, -⟩ := map_eq_ok_iff.1 h
  obtain ⟨f, hf, -⟩ | ⟨capacities, hok, hiff⟩ := stumbles_capacityTexts claims texts
  · cases hf.symm.trans hread
  · exact hiff

/-- The data claims of a cluster among claims. -/
def dataOf (c : Cluster) (claims : List Claim) : List Claim := claims.filter (isDataClaim c)

/-- The data claims of a cluster that belong to pods. -/
def usedOf (c : Cluster) (claims : List Claim) (pods : List Pod) : List Claim :=
  (dataOf c claims).filter fun claim ↦ (pods.map fun pod ↦ dataClaimName pod.name).contains claim.name

/-- What a pass is answered when it looks up the volumes of a cluster. -/
def lookingUp (ns : String) (c : Cluster) (claims : List Claim) (pods : List Pod) : List Exchange :=
  [⟨.call (.listClaims ns (c.tierLabels .database).selector), .ok claims⟩,
    ⟨.call (.listPods ns (c.tierLabels .database).selector), .ok pods⟩]

/-- What a pass is answered when it then asks for the StatefulSet. -/
def lookingFurther (ns : String) (c : Cluster) (set : StatefulSet) : Exchange :=
  ⟨.call (.getStatefulSet ns (c.tierSet .database)), .ok (some set)⟩

/-- The amounts that a pass reads, in their order, by what it is answered at first: the capacities of the data claims, if
any of these is in use; and if it then finds out what the StatefulSet was made with, also that amount, and the one that
the cluster asks for. -/
inductive ReadsTexts (c : Cluster) (es : List Exchange) : List String → Prop where
  | capacities {ns : String} {claims : List Claim} {pods : List Pod} (placed : c.metadata.ns? = some ns)
      (answered : lookingUp ns c claims pods <+: es) (used : usedOf c claims pods ≠ []) :
      ReadsTexts c es (capacityTexts (dataOf c claims))
  | all {ns : String} {claims : List Claim} {pods : List Pod} {set : StatefulSet} {configured : String}
      (placed : c.metadata.ns? = some ns)
      (answered : lookingUp ns c claims pods ++ [lookingFurther ns c set] <+: es) (used : usedOf c claims pods ≠ [])
      (template : set.templateRequest? dataVolume = some configured) :
      ReadsTexts c es (capacityTexts (dataOf c claims) ++ [configured, c.requestedStorage])

/-- What is answered at first is answered in one way. -/
theorem eq_of_lookingUp {claims claims' : List Claim} {pods pods' : List Pod}
    (h : lookingUp ns c claims' pods' <+: lookingUp ns c claims pods ++ es) : claims' = claims ∧ pods' = pods := by
  obtain ⟨rest, hrest⟩ := h
  cases hrest
  exact ⟨rfl, rfl⟩

/-- Looking up volumes ends as it is answered, and has no more answers if there is nothing to look up. -/
theorem runs_find_answered {r : Except Failure Volumes} (h : (find ns c).Runs m es r m') :
    (∃ claims pods, es = lookingUp ns c claims pods ∧ r = .ok ⟨dataOf c claims, usedOf c claims pods⟩) ∨
      (∀ claims pods, ¬lookingUp ns c claims pods <+: es) ∧ ((∃ e, r = .error (.error e)) ∨ r = .ok ⟨[], []⟩) := by
  rcases runs_call_bind.1 h with ⟨e, rfl, rfl, rfl⟩ | ⟨claims, rest, rfl, hrest⟩
  · refine .inr ⟨fun claims pods hprefix ↦ ?_, .inl ⟨e, rfl⟩⟩
    exact absurd hprefix.length_le (by simp [lookingUp])
  · have hdata : claims.filter (isDataClaim c) = dataOf c claims := rfl
    simp only [hdata] at hrest
    split at hrest
    · obtain ⟨rfl, rfl, rfl⟩ := runs_pure.1 hrest
      refine .inr ⟨fun claims pods hprefix ↦ ?_, .inr rfl⟩
      exact absurd hprefix.length_le (by simp [lookingUp])
    · rcases runs_call_bind.1 hrest with ⟨e, rfl, rfl, rfl⟩ | ⟨pods, rest, rfl, hend⟩
      · refine .inr ⟨?_, .inl ⟨e, rfl⟩⟩
        rintro claims pods ⟨rest, hrest⟩
        cases hrest
      · obtain ⟨rfl, rfl, rfl⟩ := runs_pure.1 hend
        exact .inl ⟨claims, pods, rfl, rfl⟩

/-- Which amounts a pass reads once it has been answered what its volumes are. -/
theorem readsTexts_iff {claims : List Claim} {pods : List Pod} {texts : List String} (hns : c.metadata.ns? = some ns)
    (hused : usedOf c claims pods ≠ []) : ReadsTexts c (lookingUp ns c claims pods ++ es) texts ↔
      texts = capacityTexts (dataOf c claims) ∨ ∃ set configured, [lookingFurther ns c set] <+: es ∧
        set.templateRequest? dataVolume = some configured ∧
        texts = capacityTexts (dataOf c claims) ++ [configured, c.requestedStorage] := by
  constructor
  · intro h
    cases h with
    | capacities placed answered used =>
      obtain rfl := Option.some.inj (hns.symm.trans placed)
      obtain ⟨rfl, rfl⟩ := eq_of_lookingUp answered
      exact .inl rfl
    | @all ns' claims' pods' set configured placed answered used template =>
      obtain rfl := Option.some.inj (hns.symm.trans placed)
      obtain ⟨rfl, rfl⟩ := eq_of_lookingUp ((List.prefix_append _ _).trans answered)
      exact .inr ⟨set, configured, (List.prefix_append_right_inj _).1 answered, template, rfl⟩
  · rintro (rfl | ⟨set, configured, hset, htemplate, rfl⟩)
    · exact .capacities hns (List.prefix_append _ _) hused
    · exact .all hns ((List.prefix_append_right_inj _).2 hset) hused htemplate

theorem not_readsTexts {texts : List String} (hns : c.metadata.ns? = some ns)
    (h : ∀ claims pods, lookingUp ns c claims pods <+: es → usedOf c claims pods = []) : ¬ReadsTexts c es texts := by
  intro hreads
  cases hreads with
  | capacities placed answered used =>
    obtain rfl := Option.some.inj (hns.symm.trans placed)
    exact used (h _ _ answered)
  | all placed answered used template =>
    obtain rfl := Option.some.inj (hns.symm.trans placed)
    exact used (h _ _ ((List.prefix_append _ _).trans answered))

/-- A pass that is not told what the StatefulSet was made with reads the capacities only. -/
theorem readsTexts_stumbling_of_stop {claims : List Claim} {pods : List Pod} (hns : c.metadata.ns? = some ns)
    (hused : usedOf c claims pods ≠ [])
    (hstop : ∀ set, [lookingFurther ns c set] <+: es → set.templateRequest? dataVolume = none) :
    (∃ texts, ReadsTexts c (lookingUp ns c claims pods ++ es) texts ∧ Stumbles texts) ↔
      Stumbles (capacityTexts (dataOf c claims)) := by
  simp only [readsTexts_iff hns hused]
  constructor
  · rintro ⟨_, rfl | ⟨set, configured, hset, htemplate, -⟩, hstumbles⟩
    · exact hstumbles
    · cases (hstop set hset).symm.trans htemplate
  · exact fun hstumbles ↦ ⟨_, .inl rfl, hstumbles⟩

/-- A pass that is told what the StatefulSet was made with reads all amounts. -/
theorem readsTexts_stumbling_of_template {claims : List Claim} {pods : List Pod} {set : StatefulSet}
    (hns : c.metadata.ns? = some ns) (hused : usedOf c claims pods ≠ [])
    (htemplate : set.templateRequest? dataVolume = some configured) :
    (∃ texts, ReadsTexts c (lookingUp ns c claims pods ++ lookingFurther ns c set :: es) texts ∧ Stumbles texts) ↔
      Stumbles (capacityTexts (dataOf c claims) ++ [configured, c.requestedStorage]) := by
  simp only [readsTexts_iff hns hused]
  constructor
  · rintro ⟨_, rfl | ⟨set', configured', ⟨_, hset⟩, htemplate', rfl⟩, hstumbles⟩
    · exact hstumbles.append _
    · cases hset
      obtain rfl := Option.some.inj (htemplate.symm.trans htemplate')
      exact hstumbles
  · exact fun hstumbles ↦ ⟨_, .inr ⟨set, configured, List.prefix_append [_] es, htemplate, rfl⟩, hstumbles⟩

/-- A decision overflows exactly if one of the amounts that it compares is too large, and is come to. -/
theorem decideOn_overflows_iff {used : List Claim} {r : Except Failure ResizeOutcome}
    (h : (decideOn settings ns c used actual configured).Runs m es r m')
    (hleast : leastCapacity claims = .ok (some actual)) (hused : used ⊆ claims) :
    (∃ o, r = .error (.overflow o)) ↔ Stumbles [configured, c.requestedStorage] := by
  rcases runs_orFail_bind.1 h with ⟨f, hconfigured, -, rfl, -⟩ | ⟨configuredBytes, hconfigured, hrest⟩
  · rw [stumbles_cons_of_error hconfigured]
    simp only [Except.error.injEq]
  rcases runs_orFail_bind.1 hrest with ⟨f, hrequested, -, rfl, -⟩ | ⟨requested, hrequested, -⟩
  · rw [stumbles_cons_of_ok hconfigured, stumbles_cons_of_error hrequested]
    simp only [Except.error.injEq]
  · obtain ⟨actualText, hactual⟩ := ofBytes_of_leastCapacity hleast
    have hcalm : Calm (decideOn settings ns c used actual configured : Pass σ ResizeOutcome) :=
      calm_decideOn (fun claim hclaim ↦ capacityBytes_of_leastCapacity hleast (hused hclaim)) hactual hconfigured
        hrequested
    rw [stumbles_cons_of_ok hconfigured, stumbles_cons_of_ok hrequested]
    exact iff_of_false (fun ⟨o, ho⟩ ↦ hcalm _ _ _ _ h o ho) not_stumbles_nil

/-- How a pass goes on that was answered what its volumes are, and that some are in use. -/
inductive Proceeds (settings : Settings) (ns : String) (c : Cluster) (claims : List Claim) (pods : List Pod) :
    List Exchange → Except Failure ResizeOutcome → Prop where
  | unreadable {f : Failure} (fault : leastCapacity (dataOf c claims) = .error f) :
      Proceeds settings ns c claims pods [] (.error f)
  /-- It is not told what the StatefulSet was made with. -/
  | untold {es : List Exchange} {r : Except Failure ResizeOutcome} {least : Option Nat}
      (readable : leastCapacity (dataOf c claims) = .ok least)
      (stop : ∀ set, [lookingFurther ns c set] <+: es → set.templateRequest? dataVolume = none)
      (ends : ¬∃ o, r = .error (.overflow o)) : Proceeds settings ns c claims pods es r
  | decides {σ : Type} {m m' : σ} {es : List Exchange} {r : Except Failure ResizeOutcome} {actual : Nat}
      {set : StatefulSet} {configured : String} (readable : leastCapacity (dataOf c claims) = .ok (some actual))
      (template : set.templateRequest? dataVolume = some configured)
      (decision : (decideOn settings ns c (usedOf c claims pods) actual configured).Runs m es r m') :
      Proceeds settings ns c claims pods (lookingFurther ns c set :: es) r

/-- A pass goes on from the answers about its volumes, unless there are none in use. -/
theorem runs_reconcile_answered {r : Except Failure ResizeOutcome} (h : (reconcile settings c).Runs m es r m')
    (hns : c.metadata.ns? = some ns) :
    (∃ claims pods rest, es = lookingUp ns c claims pods ++ rest ∧ usedOf c claims pods ≠ [] ∧
        Proceeds settings ns c claims pods rest r) ∨
      (∀ claims pods, lookingUp ns c claims pods <+: es → usedOf c claims pods = []) ∧
        ¬∃ o, r = .error (.overflow o) := by
  simp only [reconcile, hns] at h
  rcases runs_bind.1 h with ⟨es₁, es₂, volumes, m₁, rfl, hfind, hrest⟩ | ⟨f, rfl, hfind⟩
  · rcases runs_find_answered hfind with ⟨claims, pods, rfl, hvolumes⟩ | ⟨hnone, ⟨e, he⟩ | hvolumes⟩
    · cases hvolumes
      by_cases hused : usedOf c claims pods = []
      · simp only [hused, List.isEmpty_nil, if_true] at hrest
        obtain ⟨rfl, rfl, -⟩ := runs_pure.1 hrest
        refine .inr ⟨fun claims' pods' hanswered ↦ ?_, by simp⟩
        obtain ⟨rfl, rfl⟩ := eq_of_lookingUp hanswered
        exact hused
      refine .inl ⟨claims, pods, es₂, rfl, hused, ?_⟩
      simp only [List.isEmpty_iff, hused, if_false] at hrest
      rcases runs_orFail_bind.1 hrest with ⟨f, hleast, rfl, rfl, -⟩ | ⟨_ | actual, hleast, hrest⟩
      · exact .unreadable hleast
      · obtain ⟨rfl, rfl, -⟩ := runs_pure.1 hrest
        refine .untold hleast (fun set hset ↦ ?_) (by simp)
        cases List.prefix_nil.1 hset
      rcases runs_call_bind.1 hrest with ⟨e, rfl, rfl, -⟩ | ⟨_ | set, rest, rfl, hanswered⟩
      · refine .untold hleast ?_ (by simp)
        rintro set ⟨_, hset⟩
        cases hset
      · obtain ⟨rfl, rfl, -⟩ := runs_pure.1 hanswered
        refine .untold hleast ?_ (by simp)
        rintro set ⟨_, hset⟩
        cases hset
      · cases htemplate : set.templateRequest? dataVolume with
        | none =>
          simp only [htemplate] at hanswered
          obtain ⟨rfl, rfl, -⟩ := runs_pure.1 hanswered
          refine .untold hleast ?_ (by simp)
          rintro set' ⟨_, hset⟩
          cases hset
          exact htemplate
        | some configured =>
          simp only [htemplate] at hanswered
          exact .decides hleast htemplate hanswered
    · cases he
    · cases hvolumes
      obtain ⟨rfl, rfl, -⟩ := runs_pure.1 hrest
      rw [List.append_nil]
      exact .inr ⟨fun claims pods hanswered ↦ absurd hanswered (hnone claims pods), by simp⟩
  · rcases runs_find_answered hfind with ⟨_, _, _, hvolumes⟩ | ⟨hnone, ⟨e, he⟩ | hvolumes⟩
    · cases hvolumes
    · cases he
      exact .inr ⟨fun claims pods hanswered ↦ absurd hanswered (hnone claims pods), by simp⟩
    · cases hvolumes

/-- A pass that has found volumes in use overflows exactly if it comes to an amount that is too large. -/
theorem Proceeds.overflows_iff {claims : List Claim} {pods : List Pod} {r : Except Failure ResizeOutcome}
    (h : Proceeds settings ns c claims pods es r) (hns : c.metadata.ns? = some ns)
    (hused : usedOf c claims pods ≠ []) : (∃ o, r = .error (.overflow o)) ↔
      ∃ texts, ReadsTexts c (lookingUp ns c claims pods ++ es) texts ∧ Stumbles texts := by
  cases h with
  | @unreadable f fault =>
    have hread := stumbles_of_unreadable fault []
    rw [List.append_nil] at hread
    rw [readsTexts_stumbling_of_stop hns hused (fun _ hset ↦ nomatch List.prefix_nil.1 hset), hread]
    simp only [Except.error.injEq]
  | untold readable stop ends =>
    have hread := stumbles_of_readable readable []
    rw [List.append_nil] at hread
    rw [readsTexts_stumbling_of_stop hns hused stop, hread]
    exact iff_of_false ends not_stumbles_nil
  | decides readable template decision =>
    rw [readsTexts_stumbling_of_template hns hused template, stumbles_of_readable readable]
    exact decideOn_overflows_iff decision readable (List.filter_subset_self _)

/-- A pass overflows exactly if it comes to an amount that is too large. -/
theorem reconcile_overflows_iff {r : Except Failure ResizeOutcome} (h : (reconcile settings c).Runs m es r m') :
    (∃ o, r = .error (.overflow o)) ↔ ∃ texts, ReadsTexts c es texts ∧ Stumbles texts := by
  cases hns : c.metadata.ns? with
  | none =>
    simp only [reconcile, hns] at h
    obtain ⟨rfl, rfl, -⟩ := runs_fail.1 h
    refine iff_of_false (by simp) ?_
    rintro ⟨_, ⟨hplaced, -, -⟩ | ⟨hplaced, -, -, -⟩, -⟩ <;> cases hns.symm.trans hplaced
  | some ns =>
    obtain ⟨claims, pods, rest, rfl, hused, hproceeds⟩ | ⟨hunused, hends⟩ := runs_reconcile_answered h hns
    · exact hproceeds.overflows_iff hns hused
    · refine iff_of_false hends ?_
      rintro ⟨texts, hreads, -⟩
      exact not_readsTexts hns hunused hreads

/-- An amount of storage is read in whole allocation units as the least number of these that holds its bytes; it is not
read if it is no amount, and there is no result if it stands for bytes that are too many to be rounded up. A pass over the
volumes of a cluster, whatever it is answered, is left without an outcome exactly if such an amount is the first that it
reads, among the capacities of the data claims, what the StatefulSet was made with and what the cluster asks for, that
cannot be read in whole allocation units. -/
theorem overflows_iff_stumbles {r : Except Failure ResizeOutcome} (value : String)
    (h : (reconcile settings c).Runs m es r m') :
    (∀ aligned, Quantity.alignedBytes value = .ok aligned ↔
      ∃ n, Quantity.bytes value = .ok n ∧ n ≤ 2 ^ 64 - 2 ^ 30 ∧ IsLeast {k | 2 ^ 30 ∣ k ∧ n ≤ k} aligned) ∧
    (∀ e, Quantity.alignedBytes value = .error (.error e) ↔
      Quantity.bytes value = .error e ∧ e = .quantity (String.ofList (Text.trim value.toList))) ∧
    (∀ o, Quantity.alignedBytes value = .error (.overflow o) ↔ o = .multiplication ∧ Quantity.IsTooLarge value) ∧
    ((∃ o, r = .error (.overflow o)) ↔ ∃ texts, ReadsTexts c es texts ∧ Stumbles texts) := by
  refine ⟨fun _ ↦ Quantity.alignedBytes_eq_ok_iff, fun e ↦ ?_, fun _ ↦ Quantity.alignedBytes_eq_overflow_iff,
    reconcile_overflows_iff h⟩
  rw [Quantity.alignedBytes_eq_error_iff]
  exact ⟨fun hbytes ↦ ⟨hbytes, Quantity.eq_quantity_of_bytes hbytes⟩, And.left⟩

/-- A cluster that asks for the most bytes that can be read. -/
private def boundless : Cluster := growing.withStorage "18446744073709551615"

/-- A server that has the cluster. -/
private def boundlessStore : Store := { growingStore with clusters := [boundless] }

private theorem volumes_boundless : dataClaims boundlessStore "prod" boundless = [growingClaim] ∧
    usedClaims boundlessStore "prod" boundless = [growingClaim] := volumes_of_onlyClaim rfl rfl rfl rfl

private theorem finds_boundless : Finds boundlessStore "prod" boundless 1073741824 "1Gi" where
  used := by simp [volumes_boundless.2]
  least := by
    rw [volumes_boundless.1]
    rfl
  template := ⟨growingSet, rfl, rfl⟩

private theorem isTooLarge_boundless : Quantity.IsTooLarge boundless.requestedStorage :=
  ⟨2 ^ 64 - 1, by decide +kernel, by decide⟩

/-- The pass reads what the cluster asks for after all the rest, and is stuck there. -/
private theorem runs_reconcile_boundless :
    (reconcile .standard boundless : Pass Unit ResizeOutcome).Runs () (reading boundlessStore "prod" boundless)
      (.error (.overflow .multiplication)) () := by
  have hlarge := Quantity.alignedBytes_eq_overflow_iff.2 ⟨rfl, isTooLarge_boundless⟩
  have hdecide : (decideOn .standard "prod" boundless (usedClaims boundlessStore "prod" boundless) 1073741824 "1Gi" :
      Pass Unit ResizeOutcome).Runs () [] (.error (.overflow .multiplication)) () :=
    runs_orFail_bind.2 (.inr ⟨1073741824, decides_growing.configuredBytes_eq,
      runs_orFail_bind.2 (.inl ⟨_, hlarge, rfl, rfl, rfl⟩)⟩)
  exact runs_reconcile_of_finds rfl finds_boundless hdecide

/-- The amount is read, but not in whole allocation units, and a pass over the cluster has no outcome though no call is
refused. -/
theorem not_aligned_boundless :
    Quantity.bytes boundless.requestedStorage = .ok (2 ^ 64 - 1) ∧
      ¬((∃ aligned, Quantity.alignedBytes boundless.requestedStorage = .ok aligned) ∨
        ∃ text, Quantity.alignedBytes boundless.requestedStorage = .error (.error (.quantity text))) ∧
      ∃ es, (reconcile .standard boundless : Pass Unit ResizeOutcome).Runs () es (.error (.overflow .multiplication)) () ∧
        boundlessStore.Serves es boundlessStore ∧ Store.Granted es := by
  have hlarge := Quantity.alignedBytes_eq_overflow_iff.2 ⟨rfl, isTooLarge_boundless⟩
  refine ⟨by decide +kernel, ?_, _, runs_reconcile_boundless, serves_reading.2 rfl, granted_reading⟩
  rintro (⟨_, hread⟩ | ⟨_, hread⟩) <;> cases hlarge.symm.trans hread

/-- The pass comes to an amount that is too large. -/
theorem overflows_iff_stumbles_boundless :
    (reconcile .standard boundless : Pass Unit ResizeOutcome).Runs () (reading boundlessStore "prod" boundless)
        (.error (.overflow .multiplication)) () ∧
      ∃ texts, ReadsTexts boundless (reading boundlessStore "prod" boundless) texts ∧ Stumbles texts := by
  have hstuck := overflows_iff_stumbles boundless.requestedStorage runs_reconcile_boundless
  exact ⟨runs_reconcile_boundless, hstuck.2.2.2.1 ⟨_, rfl⟩⟩

end Volume

end GaleraOperator
