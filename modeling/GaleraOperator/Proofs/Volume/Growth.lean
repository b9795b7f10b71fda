import GaleraOperator.Proofs.Volume.Basic

/-!
# Asking claims to grow

The start of a resize asks one claim after the other. It goes through all of them, or stops at one: because the capacity
is not readable, because the request was refused, or because the refusal is final, and then the resize is given up.
-/

namespace GaleraOperator

open Kube

namespace Kube.Claim

/-- What the claim asks for of a resource. -/
def requestOf? (c : Claim) (resource : String) : Option String := do
  (← (← (← c.spec).resources).requests).get? resource

/-- Whether a claim is another one but for the storage that it asks for. -/
structure IsAsked (claim : Claim) (quantity : String) (new : Claim) : Prop where
  storage : new.request? = some quantity
  requests : ∀ resource, resource ≠ storageResource → new.requestOf? resource = claim.requestOf? resource
  carriedResources : ((new.spec.bind (·.resources)).map (·.carried)).getD [] =
    ((claim.spec.bind (·.resources)).map (·.carried)).getD []
  carriedSpec : (new.spec.map (·.carried)).getD [] = (claim.spec.map (·.carried)).getD []
  metadata : new.metadata = claim.metadata
  status : new.status = claim.status

theorem isAsked_withRequest (claim : Claim) (quantity : String) :
    claim.IsAsked quantity (claim.withRequest quantity) where
  storage := by simp [request?, withRequest]
  requests := by
    intro resource h
    obtain ⟨_, _ | ⟨_ | ⟨_ | _, _⟩, _⟩, _⟩ := claim <;> simp [requestOf?, withRequest, h]
  carriedResources := by
    obtain ⟨_, _ | ⟨_ | _, _⟩, _⟩ := claim <;> rfl
  carriedSpec := by
    obtain ⟨_, _ | _, _⟩ := claim <;> rfl
  metadata := rfl
  status := rfl

end Kube.Claim

/-- What a server holds after claims were asked to grow. -/
def Store.asked (s : Store) (target : String) (claims : List Claim) : Store :=
  { s with claims := claims.foldl (fun held claim ↦ held.put (claim.withRequest target)) s.claims }

theorem Store.asked_append (s : Store) (target : String) (claims claims' : List Claim) :
    s.asked target (claims ++ claims') = (s.asked target claims).asked target claims' := by
  simp [asked, List.foldl_append]

namespace Volume

variable {σ : Type} {m m' : σ} {es : List Exchange} {s t : Store} {ns : String} {c held : Cluster} {requested : Nat}
  {settings : Settings} {configured reason target : String}

open Pass

@[simp] theorem setStorage_getD (c : Cluster) :
    ((setStorage configured c).getD c).requestedStorage = configured ∧
      ((setStorage configured c).getD c).resizeMark? = c.resizeMark? := by
  unfold setStorage
  split
  · next h => exact ⟨h, rfl⟩
  · exact ⟨rfl, rfl⟩

@[simp] theorem markEnded_getD (c : Cluster) :
    ((markEnded c).getD c).requestedStorage = c.requestedStorage ∧ ((markEnded c).getD c).resizeMark? = none := by
  unfold markEnded
  split
  · exact ⟨rfl, by simp⟩
  · next h => exact ⟨rfl, by simpa using h⟩

/-- Whether a server holds a cluster without a note of a resize that asks for the given storage. -/
def IsRolledBack (ns : String) (c : Cluster) (configured : String) (s : Store) : Prop :=
  ∃ held, s.clusters.find? ns c.name = some held ∧ held.resizeMark? = none ∧ held.requestedStorage = configured

theorem setStorage_keeps {c new : Cluster} {name : String} (h : setStorage configured c = some new) :
    Objects.isAt ns name new = Objects.isAt ns name c := by
  unfold setStorage at h
  split at h <;> cases h
  rfl

theorem markEnded_keeps {c new : Cluster} {name : String} (h : markEnded c = some new) :
    Objects.isAt ns name new = Objects.isAt ns name c := by
  unfold markEnded at h
  split at h <;> cases h
  rfl

/-- How giving up a resize ends: it was rolled back, or the server did not let that happen. -/
def GaveUp {α : Type} (ns : String) (c : Cluster) (configured : String) (es : List Exchange) (r : Except Failure α)
    (after : Store) : Prop :=
  Store.Refused es r ∨ ∃ reason, r = .error (.error (.resize reason)) ∧ IsRolledBack ns c configured after

theorem GaveUp.append {α : Type} {r : Except Failure α} {fs : List Exchange} (es : List Exchange)
    (h : GaveUp ns c configured fs r t) : GaveUp ns c configured (es ++ fs) r t :=
  h.imp_left (·.append es)

theorem GaveUp.error {α β : Type} {f : Failure} (h : GaveUp (α := α) ns c configured es (.error f) t) :
    GaveUp (α := β) ns c configured es (.error f) t := by
  refine h.imp Store.Refused.error ?_
  rintro ⟨reason, hr, hrolled⟩
  cases hr
  exact ⟨reason, rfl, hrolled⟩

theorem runs_rollBack {α : Type} {r : Except Failure α} (h : (rollBack settings ns c configured reason).Runs m es r m')
    (hs : s.Serves es t) (hheld : s.clusters.find? ns c.name = some held) :
    (∃ f, r = .error f) ∧ GaveUp ns c configured es r t ∧ s.SameButClusters t ∧ m' = m ∧
      ∀ call ∈ calls es, IsClusterCall ns c.name call := by
  obtain ⟨_, rest, rfl, hrest⟩ := runs_ask_bind.1 h
  obtain ⟨u, hu, hs⟩ := hs
  obtain rfl : u = s := hu
  rcases runs_bind.1 hrest with ⟨es₁, es₂, _, m₁, rfl, hstorage, hafter⟩ | ⟨f, rfl, hstorage⟩
  · obtain ⟨v, hs₁, hs₂⟩ := Store.serves_append.1 hs
    obtain ⟨rfl, hsame₁, hcalls₁, ⟨hrefused, _⟩ | ⟨_, hheld₁⟩⟩ :=
      changeCluster_held hstorage hs₁ (fun _ ↦ setStorage_keeps) hheld
    · exact absurd hrefused Store.not_refused_ok
    rcases runs_bind.1 hafter with ⟨es₃, es₄, _, m₂, rfl, hmark, hend⟩ | ⟨f, rfl, hmark⟩
    · obtain ⟨rfl, rfl, rfl⟩ := runs_fail.1 hend
      rw [List.append_nil] at hs₂
      obtain ⟨rfl, hsame₂, hcalls₂, ⟨hrefused, _⟩ | ⟨_, hheld₂⟩⟩ :=
        changeCluster_held hmark hs₂ (fun _ ↦ markEnded_keeps) hheld₁
      · exact absurd hrefused Store.not_refused_ok
      exact ⟨⟨_, rfl⟩, .inr ⟨reason, rfl, _, hheld₂, by simp, by simp⟩, hsame₁.trans hsame₂, rfl,
        by simpa [or_imp, forall_and] using ⟨hcalls₁, hcalls₂⟩⟩
    · obtain ⟨rfl, hsame₂, hcalls₂, ⟨hrefused, rfl⟩ | ⟨hr, _⟩⟩ :=
        changeCluster_held hmark hs₂ (fun _ ↦ markEnded_keeps) hheld₁
      · exact ⟨⟨f, rfl⟩, .inl (hrefused.error.append _).cons, hsame₁, rfl,
          by simpa [or_imp, forall_and] using ⟨hcalls₁, hcalls₂⟩⟩
      · cases hr
  · obtain ⟨rfl, hsame, hcalls, ⟨hrefused, rfl⟩ | ⟨hr, _⟩⟩ :=
      changeCluster_held hstorage hs (fun _ ↦ setStorage_keeps) hheld
    · exact ⟨⟨f, rfl⟩, .inl hrefused.error.cons, hsame, rfl, by simpa using hcalls⟩
    · cases hr

/-- What asking claims to grow comes to. -/
inductive Growth (ns : String) (c : Cluster) (configured target : String) (requested : Nat) (claims : List Claim)
    (s : Store) : List Exchange → Except Failure (List Bool) → Store → Prop where
  /-- All that lag behind were asked, each of them once, and nothing was refused. -/
  | all {es : List Exchange} {asked : List Bool} {t : Store} (granted : Store.Granted es)
      (count : asked.count true = (lagging requested claims).length)
      (asks : calls es = (lagging requested claims).map fun claim ↦ .replaceClaim ns (claim.withRequest target))
      (after : t = s.asked target (lagging requested claims)) :
      Growth ns c configured target requested claims s es (.ok asked) t
  /-- The first of those that lag behind were asked, and the next one could not be. -/
  | stopped {es : List Exchange} {f : Failure} {part rest : List Claim} {next : Claim}
      (order : lagging requested claims = part ++ next :: rest) (plain : f.isVerdict = false) :
      Growth ns c configured target requested claims s es (.error f) (s.asked target part)
  /-- The first of those that lag behind were asked, and the refusal of the next one is final. -/
  | givenUp {es : List Exchange} {f : Failure} {t : Store} {part : List Claim}
      (initial : part <+: lagging requested claims) (gaveUp : GaveUp (α := Unit) ns c configured es (.error f) t)
      (same : (s.asked target part).SameButClusters t)
      (hard : ∀ claim e, ⟨.call (.replaceClaim ns claim), .error e⟩ ∈ es → isHardFailure e = true) :
      Growth ns c configured target requested claims s es (.error f) t

/-- The first that lags behind could not be asked. -/
theorem Growth.stopAtOnce {claims rest : List Claim} {next : Claim} {f : Failure}
    (order : lagging requested claims = next :: rest) (plain : f.isVerdict = false) :
    Growth ns c configured target requested claims s es (.error f) s := by
  change Growth ns c configured target requested claims s es (.error f) (s.asked target [])
  exact .stopped order plain

/-- The refusal of the first that lags behind is final. -/
theorem Growth.giveUpAtOnce {claims : List Claim} {f : Failure}
    (gaveUp : GaveUp (α := Unit) ns c configured es (.error f) t) (same : s.SameButClusters t)
    (hard : ∀ claim e, ⟨.call (.replaceClaim ns claim), .error e⟩ ∈ es → isHardFailure e = true) :
    Growth ns c configured target requested claims s es (.error f) t := by
  change (s.asked target []).SameButClusters t at same
  exact .givenUp List.nil_prefix gaveUp same hard

theorem runs_growClaim {claim : Claim} {r : Except Failure Bool}
    (h : (growClaim settings ns c configured requested claim).Runs m es r m') (hs : s.Serves es t)
    (hheld : s.clusters.find? ns c.name = some held) (htarget : Quantity.ofBytes requested = .ok target) :
    m' = m ∧ Growth ns c configured target requested [claim] s es (r.map ([·])) t := by
  rcases runs_orFail_bind.1 h with ⟨f, hf, rfl, rfl, rfl⟩ | ⟨capacity, hcapacity, hrest⟩
  · obtain rfl : t = s := hs
    have hlagging : lagging requested [claim] = [claim] := by simp [lagging, lags, hf]
    exact ⟨rfl, .stopAtOnce hlagging (not_isVerdict_of_capacityBytes hf)⟩
  have hlags := lags_of_capacityBytes requested hcapacity
  by_cases hdone : capacity = some requested
  · have hlagging : lagging requested [claim] = [] := by simp [lagging, hlags, hdone]
    simp only [hdone, if_true] at hrest
    obtain ⟨rfl, rfl, rfl⟩ := runs_pure.1 hrest
    obtain rfl : t = s := hs
    exact ⟨rfl, .all Store.granted_nil (by simp [hlagging]) (by simp [hlagging]) (by simp [hlagging, Store.asked])⟩
  · have hlagging : lagging requested [claim] = [claim] := by simp [lagging, hlags, hdone]
    simp only [hdone, if_false] at hrest
    obtain ⟨o, ho, -⟩ | ⟨target', htarget', hasked⟩ := runs_orOverflow_bind.1 hrest
    · cases ho.symm.trans htarget
    obtain rfl : target = target' := Except.ok.inj (htarget.symm.trans htarget')
    obtain ⟨reply, rest, rfl, hafter⟩ := runs_attempt_call_bind.1 hasked
    cases reply with
    | ok answer =>
      obtain ⟨rfl, rfl, rfl⟩ := runs_pure.1 hafter
      obtain ⟨-, ht⟩ := Store.serves_ok.1 hs
      obtain rfl : t = s.asked target [claim] := ht
      exact ⟨rfl, .all Store.granted_ok (by simp [hlagging]) (by simp [hlagging]) (by rw [hlagging])⟩
    | error e =>
      obtain ⟨⟨fault, rfl⟩, hserves⟩ := Store.serves_error.1 hs
      by_cases hhard : isHardFailure (.call fault)
      · simp only [hhard, if_true] at hafter
        obtain ⟨⟨f, rfl⟩, hgaveUp, hsame, rfl, hcalls⟩ := runs_rollBack hafter hserves hheld
        refine ⟨rfl, .giveUpAtOnce (hgaveUp.error.append [_]) hsame ?_⟩
        intro claim' e hmem
        rcases List.mem_cons.1 hmem with heq | hmem
        · cases heq
          exact hhard
        · rcases hcalls _ (mem_calls.2 ⟨_, hmem⟩) with h | ⟨_, h⟩ <;> cases h
      · simp only [hhard, Bool.false_eq_true, if_false] at hafter
        obtain ⟨rfl, rfl, rfl⟩ := runs_fail.1 hafter
        obtain rfl : t = s := hserves
        exact ⟨rfl, .stopAtOnce hlagging rfl⟩

theorem lagging_cons (claim : Claim) (claims : List Claim) :
    lagging requested (claim :: claims) = lagging requested [claim] ++ lagging requested claims :=
  List.filter_append [claim] claims

/-- What stops at a claim stops there whatever claims would come after it. -/
theorem Growth.stop {claim : Claim} {f : Failure} (claims : List Claim)
    (h : Growth ns c configured target requested [claim] s es (.error f) t) :
    Growth ns c configured target requested (claim :: claims) s es (.error f) t := by
  have hinitial : lagging requested [claim] <+: lagging requested (claim :: claims) :=
    ⟨lagging requested claims, (lagging_cons claim claims).symm⟩
  cases h with
  | @stopped _ part rest next order plain =>
    have horder : lagging requested (claim :: claims) = part ++ next :: (rest ++ lagging requested claims) := by
      rw [lagging_cons claim claims, order, List.append_assoc, List.cons_append]
    exact .stopped horder plain
  | givenUp initial gaveUp same hard => exact .givenUp (initial.trans hinitial) gaveUp same hard

/-- After a claim the others are gone through. -/
theorem Growth.cons {claim : Claim} {claims : List Claim} {b : Bool} {es₁ es₂ : List Exchange} {u : Store}
    {r : Except Failure (List Bool)} (h₁ : Growth ns c configured target requested [claim] s es₁ (.ok [b]) u)
    (h₂ : Growth ns c configured target requested claims u es₂ r t) :
    Growth ns c configured target requested (claim :: claims) s (es₁ ++ es₂) (r.map (b :: ·)) t := by
  cases h₁ with
  | all granted count asks after =>
    subst after
    have hinitial {part : List Claim} (h : part <+: lagging requested claims) :
        lagging requested [claim] ++ part <+: lagging requested (claim :: claims) := by
      rw [lagging_cons claim claims]
      exact (List.prefix_append_right_inj _).2 h
    cases h₂ with
    | all granted' count' asks' after =>
      refine .all (Store.granted_append.2 ⟨granted, granted'⟩) ?_ ?_ ?_
      · rw [lagging_cons claim claims, List.length_append, ← count, ← count', ← List.count_append, List.singleton_append]
      · rw [lagging_cons claim claims, calls_append, asks, asks', List.map_append]
      · rw [after, lagging_cons claim claims, Store.asked_append]
    | @stopped _ part rest next order plain =>
      have horder : lagging requested (claim :: claims) = (lagging requested [claim] ++ part) ++ next :: rest := by
        rw [lagging_cons claim claims, order, List.append_assoc]
      rw [← Store.asked_append]
      exact .stopped horder plain
    | givenUp initial gaveUp same hard =>
      rw [← Store.asked_append] at same
      refine .givenUp (hinitial initial) (gaveUp.append _) same fun claim' e hmem ↦ ?_
      rcases List.mem_append.1 hmem with hmem | hmem
      · exact absurd hmem (granted _ _)
      · exact hard claim' e hmem

/-- Asking all claims to grow, whatever the server refuses. -/
theorem runs_growClaims {claims : List Claim} {r : Except Failure (List Bool)}
    (h : (claims.mapM (growClaim settings ns c configured requested)).Runs m es r m') (hs : s.Serves es t)
    (hheld : s.clusters.find? ns c.name = some held) (htarget : Quantity.ofBytes requested = .ok target) :
    m' = m ∧ Growth ns c configured target requested claims s es r t := by
  induction claims generalizing m s es r with
  | nil =>
    obtain ⟨rfl, rfl, rfl⟩ := runs_mapM_nil.1 h
    obtain rfl : t = s := hs
    exact ⟨rfl, .all Store.granted_nil rfl rfl rfl⟩
  | cons claim claims ih =>
    rcases runs_mapM_cons.1 h with ⟨es₁, es₂, b, m₁, r₂, rfl, hclaim, hclaims, rfl⟩ | ⟨f, rfl, hclaim⟩
    · obtain ⟨u, hs₁, hs₂⟩ := Store.serves_append.1 hs
      obtain ⟨rfl, hgrowth⟩ := runs_growClaim hclaim hs₁ hheld htarget
      have hheld' : u.clusters.find? ns c.name = some held := by
        cases hgrowth with
        | all granted count asks after =>
          subst after
          exact hheld
      obtain ⟨rfl, hgrowth'⟩ := ih hclaims hs₂ hheld'
      exact ⟨rfl, hgrowth.cons hgrowth'⟩
    · obtain ⟨rfl, hgrowth⟩ := runs_growClaim hclaim hs hheld htarget
      exact ⟨rfl, hgrowth.stop claims⟩

end Volume

end GaleraOperator
