import GaleraOperator.Pass.ClusterAccess
import GaleraOperator.Proofs.Serve

/-!
# Changes of a cluster

What a server holds after a cluster was changed: the same as before if the change failed or there was nothing to change,
and otherwise the cluster with the change in the place of the one that was read. Attempts that lost leave no trace.
-/

namespace GaleraOperator

/-- Whether two servers differ at most in the clusters that they hold. -/
def Store.SameButClusters (s t : Store) : Prop := t = { s with clusters := t.clusters }

theorem Store.SameButClusters.refl (s : Store) : s.SameButClusters s := rfl

theorem Store.SameButClusters.trans {s t u : Store} (h : s.SameButClusters t) (h' : t.SameButClusters u) :
    s.SameButClusters u := by
  rw [SameButClusters, h', h]

/-- A cluster that was written in the place of another is found there. -/
theorem Objects.find?_put_of_find? {ns name : String} {xs : Objects Cluster} {c new : Cluster}
    (h : Objects.find? ns name xs = some c) (hsame : Objects.isAt ns name new = Objects.isAt ns name c) :
    Objects.find? ns name (Objects.put new xs) = some new := by
  have hat : Objects.isAt ns name c = true := List.find?_some h
  rw [Objects.find?_put, hsame, hat, if_pos rfl]

namespace Pass

variable {σ : Type} {m m' : σ} {es : List Exchange} {s t : Store} {ns name : String} {change : Cluster → Option Cluster}
  {settings : Settings} {r : Except Failure Unit}

/-- What changing a cluster comes to. -/
inductive ChangeResult (ns name : String) (change : Cluster → Option Cluster) (s : Store) (es : List Exchange) :
    Except Failure Unit → Store → Prop where
  | refused {r : Except Failure Unit} (refused : Store.Refused es r) : ChangeResult ns name change s es r s
  | missing {what : String} (absent : s.clusters.find? ns name = none) :
      ChangeResult ns name change s es (.error (.error (.notFound what))) s
  | unchanged {latest : Cluster} (stored : s.clusters.find? ns name = some latest) (nothing : change latest = none) :
      ChangeResult ns name change s es (.ok ()) s
  | changed {latest new : Cluster} (stored : s.clusters.find? ns name = some latest) (changes : change latest = some new)
      (written : ⟨.call (.replaceCluster ns new), .ok new⟩ ∈ es) :
      ChangeResult ns name change s es (.ok ()) { s with clusters := s.clusters.put new }

theorem ChangeResult.sameButClusters (h : ChangeResult ns name change s es r t) : s.SameButClusters t := by
  cases h <;> rfl

/-- A change that was made, or was not necessary, has left the cluster changed. -/
theorem ChangeResult.stored {held : Cluster} (h : ChangeResult ns name change s es (.ok ()) t)
    (hkeeps : ∀ new, change held = some new → Objects.isAt ns name new = Objects.isAt ns name held)
    (hheld : s.clusters.find? ns name = some held) :
    t.clusters.find? ns name = some ((change held).getD held) := by
  cases h with
  | refused hrefused =>
    obtain ⟨_, _, _, hr⟩ := hrefused
    cases hr
  | unchanged stored nothing =>
    obtain rfl := Option.some.inj (hheld.symm.trans stored)
    rw [nothing]
    exact hheld
  | changed stored changes written =>
    obtain rfl := Option.some.inj (hheld.symm.trans stored)
    rw [changes]
    exact Objects.find?_put_of_find? stored (hkeeps _ changes)

/-- The calls by which a stored cluster is changed: it is read, and nothing but its change is written. -/
def IsChangeCall (ns name : String) (change : Cluster → Option Cluster) (s : Store) (c : Call) : Prop :=
  c = .getCluster ns name ∨
    ∃ latest new, s.clusters.find? ns name = some latest ∧ change latest = some new ∧ c = .replaceCluster ns new

theorem runs_fetchCluster {r : Except Failure Cluster} (h : (fetchCluster ns name).Runs m es r m') :
    m' = m ∧ ∃ reply : Except Error (Option Cluster), es = [⟨.call (.getCluster ns name), reply⟩] ∧
      ((∃ e, reply = .error e ∧ r = .error (.error e)) ∨
        (reply = .ok none ∧ ∃ what, r = .error (.error (.notFound what))) ∨
        ∃ latest, reply = .ok (some latest) ∧ r = .ok latest) := by
  rcases runs_call_bind.1 h with ⟨e, rfl, rfl, rfl⟩ | ⟨latest?, rest, rfl, hrest⟩
  · exact ⟨rfl, _, rfl, .inl ⟨e, rfl, rfl⟩⟩
  · cases latest? with
    | none =>
      obtain ⟨rfl, rfl, rfl⟩ := runs_fail.1 hrest
      exact ⟨rfl, _, rfl, .inr (.inl ⟨rfl, _, rfl⟩)⟩
    | some latest =>
      obtain ⟨rfl, rfl, rfl⟩ := runs_pure.1 hrest
      exact ⟨rfl, _, rfl, .inr (.inr ⟨latest, rfl, rfl⟩)⟩

/-- One attempt to change a cluster. -/
theorem changeClusterOnce_result (h : (changeClusterOnce ns name change).Runs m es r m') (hs : s.Serves es t) :
    ChangeResult ns name change s es r t ∧ m' = m ∧ ∀ c ∈ calls es, IsChangeCall ns name change s c := by
  rcases runs_bind.1 h with ⟨es₁, es₂, latest, m₁, rfl, hfetch, hrest⟩ | ⟨e, rfl, hfetch⟩
  · obtain ⟨rfl, reply, rfl, ⟨_, _, hr⟩ | ⟨_, _, hr⟩ | ⟨_, rfl, hr⟩⟩ := runs_fetchCluster hfetch <;> cases hr
    obtain ⟨hfound, hs⟩ := Store.serves_ok.1 hs
    have hstored : s.clusters.find? ns name = some latest := hfound.symm
    cases hchange : change latest with
    | none =>
      simp only [hchange] at hrest
      obtain ⟨rfl, rfl, rfl⟩ := runs_pure.1 hrest
      obtain rfl := hs
      exact ⟨.unchanged hstored hchange, rfl, by simp [IsChangeCall]⟩
    | some new =>
      simp only [hchange] at hrest
      rcases runs_call_bind.1 hrest with ⟨e, rfl, rfl, rfl⟩ | ⟨answer, rest, rfl, hend⟩
      · obtain ⟨⟨fault, rfl⟩, rfl⟩ := Store.serves_error.1 hs
        exact ⟨.refused (Store.refused_self.append _), rfl, by simp [IsChangeCall, hstored, hchange]⟩
      · obtain ⟨rfl, rfl, rfl⟩ := runs_pure.1 hend
        obtain ⟨hanswer, ht⟩ := Store.serves_ok.1 hs
        obtain rfl : new = answer := hanswer.symm
        obtain rfl : t = { s with clusters := s.clusters.put new } := ht
        exact ⟨.changed hstored hchange (by simp), rfl, by simp [IsChangeCall, hstored, hchange]⟩
  · obtain ⟨rfl, reply, rfl, ⟨_, rfl, hr⟩ | ⟨rfl, what, hr⟩ | ⟨_, _, hr⟩⟩ := runs_fetchCluster hfetch <;> cases hr
    · obtain ⟨⟨fault, rfl⟩, rfl⟩ := Store.serves_error.1 hs
      exact ⟨.refused Store.refused_self, rfl, by simp [IsChangeCall]⟩
    · obtain ⟨habsent, rfl⟩ := Store.serves_ok.1 hs
      exact ⟨.missing habsent.symm, rfl, by simp [IsChangeCall]⟩

/-- Attempts to change a cluster that lost leave everything as it was. -/
theorem lost_changeClusterOnce (h : Lost (changeClusterOnce ns name change) m es m') (hs : s.Serves es t) :
    t = s ∧ m' = m ∧ ∀ c ∈ calls es, IsChangeCall ns name change s c := by
  induction h generalizing s with
  | none => exact ⟨hs, rfl, by simp⟩
  | next past attempt conflict rest ih =>
    obtain ⟨u, hattempt, v, hwait, hrest⟩ := Store.serves_append.1 hs
    obtain rfl : v = u := hwait
    obtain ⟨hresult, rfl, hcalls⟩ := changeClusterOnce_result attempt hattempt
    obtain ⟨rfl, rfl, hcalls'⟩ := ih hrest
    cases hresult <;> exact ⟨rfl, rfl, by simpa [or_imp, forall_and] using ⟨hcalls, hcalls'⟩⟩

/-- Changing a cluster comes to what the last attempt comes to. -/
theorem changeCluster_result (h : (changeCluster settings ns name change).Runs m es r m') (hs : s.Serves es t) :
    ChangeResult ns name change s es r t ∧ m' = m ∧ ∀ c ∈ calls es, IsChangeCall ns name change s c := by
  obtain ⟨lost, last, m₁, rfl, hlost, hlast⟩ := Runs.retryOnConflict h
  obtain ⟨u, hs₁, hs₂⟩ := Store.serves_append.1 hs
  obtain ⟨rfl, rfl, hcalls⟩ := lost_changeClusterOnce hlost hs₁
  obtain ⟨hresult, rfl, hcalls'⟩ := changeClusterOnce_result hlast hs₂
  refine ⟨?_, rfl, by simpa [or_imp, forall_and] using ⟨hcalls, hcalls'⟩⟩
  cases hresult with
  | refused hrefused => exact .refused (hrefused.append _)
  | missing absent => exact .missing absent
  | unchanged stored nothing => exact .unchanged stored nothing
  | changed stored changes written => exact .changed stored changes (List.mem_append_right lost written)

/-- The calls by which a cluster is changed, whatever the change. -/
def IsClusterCall (ns name : String) (c : Call) : Prop := c = .getCluster ns name ∨ ∃ new, c = .replaceCluster ns new

theorem IsChangeCall.isClusterCall {c : Call} (h : IsChangeCall ns name change s c) : IsClusterCall ns name c := by
  rcases h with rfl | ⟨_, new, _, _, rfl⟩
  · exact .inl rfl
  · exact .inr ⟨new, rfl⟩

/-- Changing a cluster that the server holds is refused and leaves no trace, or leaves the cluster changed. -/
theorem changeCluster_held {held : Cluster} (h : (changeCluster settings ns name change).Runs m es r m')
    (hs : s.Serves es t)
    (hkeeps : ∀ new, change held = some new → Objects.isAt ns name new = Objects.isAt ns name held)
    (hheld : s.clusters.find? ns name = some held) :
    m' = m ∧ s.SameButClusters t ∧ (∀ c ∈ calls es, IsClusterCall ns name c) ∧
      ((Store.Refused es r ∧ t = s) ∨ (r = .ok () ∧ t.clusters.find? ns name = some ((change held).getD held))) := by
  obtain ⟨hresult, rfl, hcalls⟩ := changeCluster_result h hs
  refine ⟨rfl, hresult.sameButClusters, fun c hc ↦ (hcalls c hc).isClusterCall, ?_⟩
  rcases r with f | _
  · cases hresult with
    | refused hrefused => exact .inl ⟨hrefused, rfl⟩
    | missing absent => cases absent.symm.trans hheld
  · exact .inr ⟨rfl, hresult.stored hkeeps hheld⟩

/-- A cluster is read and written back with a change. -/
theorem runs_changeCluster_ok {latest new : Cluster} (h : change latest = some new) :
    (changeCluster settings ns name change).Runs m
      [⟨.call (.getCluster ns name), .ok (some latest)⟩, ⟨.call (.replaceCluster ns new), .ok new⟩] (.ok ()) m := by
  refine Runs.retryOnConflict_ok (runs_bind.2 (.inl ⟨[_], [_], latest, m, rfl, ?_, ?_⟩))
  · exact runs_call_bind.2 (.inr ⟨some latest, [], rfl, runs_pure.2 ⟨rfl, rfl, rfl⟩⟩)
  · simp only [h]
    exact runs_call_bind.2 (.inr ⟨new, [], rfl, runs_pure.2 ⟨rfl, rfl, rfl⟩⟩)

theorem asks_fetchCluster {P : Call → Prop} (h : P (.getCluster ns name)) :
    Asks P (fetchCluster ns name : Pass σ Cluster) := by
  refine Asks.bind (Asks.call h) fun latest? ↦ ?_
  cases latest? with
  | none => exact Asks.fail _
  | some latest => exact Asks.pure latest

/-- Changing a cluster asks for nothing but the cluster and a replacement of it. -/
theorem asks_changeCluster {P : Call → Prop} (h : ∀ call, IsClusterCall ns name call → P call) :
    Asks P (changeCluster settings ns name change : Pass σ Unit) := by
  apply Asks.retryOnConflict
  refine Asks.bind (asks_fetchCluster (h _ (.inl rfl))) fun latest ↦ ?_
  cases change latest with
  | none => exact Asks.pure ()
  | some new => exact Asks.bind (Asks.call (h _ (.inr ⟨new, rfl⟩))) fun _ ↦ Asks.pure ()

end Pass

end GaleraOperator
