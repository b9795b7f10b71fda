import GaleraOperator.Proofs.Undisturbed
import GaleraOperator.Proofs.Volume.ClusterWrites

/-!
# What a server that fails keeps of its clusters

Any call may fail, and a call that failed may have been performed nevertheless. Whatever comes of it, what the operator
writes to clusters in the course of a pass leaves alone what their status tells of their tiers, of their host and of
their generation, unless it writes what a pass has seen: every write sends back a cluster that was read just before.
-/

namespace GaleraOperator

open Pass

namespace Store

variable {s t u : Store} {x : Exchange} {es fs : List Exchange}

/-- What a server may answer that may fail, and what it holds then. What is asked of containers may be answered with
anything, and changes nothing at the server. -/
inductive MayAnswer (s : Store) : Exchange → Store → Prop where
  | performed (c : Call) : MayAnswer s ⟨.call c, .ok (s.perform c).1⟩ (s.perform c).2
  | failed (c : Call) (e : Error) : MayAnswer s ⟨.call c, .error e⟩ s
  /-- The answer was lost after the call was performed. -/
  | unheard (c : Call) (e : Error) : MayAnswer s ⟨.call c, .error e⟩ (s.perform c).2
  | container {c : Call} (enters : c.entersContainer = true) (reply : Except Error c.Answer) :
      MayAnswer s ⟨.call c, reply⟩ s
  | aside {x : Exchange} (nothing : x.call? = none) : MayAnswer s x s

/-- A server that may fail may give the replies of exchanges, one after the other, and then hold what it holds. -/
def MayGive : Store → List Exchange → Store → Prop
  | s, [], t => t = s
  | s, x :: es, t => ∃ u, s.MayAnswer x u ∧ u.MayGive es t

theorem mayGive_append : s.MayGive (es ++ fs) t ↔ ∃ u, s.MayGive es u ∧ u.MayGive fs t := by
  induction es generalizing s with
  | nil => simp [MayGive]
  | cons x es ih =>
    simp only [List.cons_append, MayGive, ih]
    constructor
    · rintro ⟨v, hx, w, hes, hfs⟩
      exact ⟨w, ⟨v, hx, hes⟩, hfs⟩
    · rintro ⟨w, ⟨v, hx, hes⟩, hfs⟩
      exact ⟨v, hx, w, hes, hfs⟩

/-- What happens in surroundings that answer as a server may that may fail. -/
theorem mayGive_course {α : Type} {surroundings : Interaction.Surroundings Store}
    (h : ∀ (e : Effect) (s : Store), s.MayAnswer ⟨e, (surroundings e s).1⟩ (surroundings e s).2)
    (p : Interaction α) (s : Store) : s.MayGive (p.course surroundings s) (p.run surroundings s).2 := by
  induction p generalizing s with
  | done a => rfl
  | ask e next ih => exact ⟨_, h e s, ih _ _⟩

namespace MayAnswer

/-- Whether it fails or not, a call is performed or changes nothing. -/
theorem performed_or_eq {c : Call} {reply : Except Error c.Answer} (h : s.MayAnswer ⟨.call c, reply⟩ t) :
    t = (s.perform c).2 ∨ t = s := by
  cases h with
  | performed => exact .inl rfl
  | failed => exact .inr rfl
  | unheard => exact .inl rfl
  | container => exact .inr rfl
  | aside nothing => cases nothing

theorem eq_of_call? (h : s.MayAnswer x t) (hx : x.call? = none) : t = s := by
  cases h with
  | aside => rfl
  | performed | failed | unheard | container => cases hx

/-- A cluster that is read is what is stored, if the answer is one. -/
theorem read {ns name : String} {reply : Except Error (Option Cluster)}
    (h : s.MayAnswer ⟨.call (.getCluster ns name), reply⟩ t) :
    t = s ∧ ∀ found, reply = .ok found → s.clusters.find? ns name = found := by
  cases h with
  | performed => exact ⟨rfl, fun found hreply ↦ Except.ok.inj hreply⟩
  | failed | unheard => exact ⟨rfl, fun found hreply ↦ by cases hreply⟩
  | container enters => cases enters
  | aside nothing => cases nothing

/-- A replacement puts the cluster that is sent in its place, or it is answered with an error and changes nothing. -/
theorem replaced {ns : String} {c : Cluster} {reply : Except Error Cluster} (h : s.MayAnswer x t)
    (hx : x.replacement? = some (ns, c, reply)) :
    t = { s with clusters := s.clusters.put c } ∨ (t = s ∧ ∃ e, reply = .error e) := by
  cases h with
  | performed call | unheard call => cases call <;> cases hx <;> exact .inl rfl
  | failed call e => cases call <;> cases hx <;> exact .inr ⟨rfl, e, rfl⟩
  | @container call enters => cases call <;> cases hx <;> cases enters
  | aside nothing =>
    rw [Exchange.replacement?_of_call? nothing] at hx
    cases hx

/-- What is not about clusters changes none. -/
theorem clusters_eq (h : s.MayAnswer x t) (hx : ∀ call ∈ x.call?, call.concernsClusters = false) :
    t.clusters = s.clusters := by
  obtain ⟨effect, answer⟩ := x
  cases effect with
  | call call =>
    have hcall : call.concernsClusters = false := hx call rfl
    rcases h.performed_or_eq with rfl | rfl
    · cases call <;> first | rfl | cases hcall
    · rfl
  | now | wait | measure | touch => rw [h.eq_of_call? rfl]

end MayAnswer

/-- Where nothing is asked of the server, it stays as it is. -/
theorem MayGive.eq_of_calls_eq_nil (h : s.MayGive es t) (hes : calls es = []) : t = s := by
  induction es generalizing s with
  | nil => exact h
  | cons x es ih =>
    obtain ⟨u, hx, hrest⟩ := h
    rw [calls_cons, List.append_eq_nil_iff] at hes
    obtain ⟨hnone, hes⟩ := hes
    rw [ih hrest hes, hx.eq_of_call? (Option.toList_eq_nil_iff.1 hnone)]

end Store

/-- What a status tells of the tiers of a cluster, of its host and of the generation it was observed in. -/
structure Report where
  database : Option TierStatus
  haproxy : Option TierStatus
  proxysql : Option TierStatus
  host : Option String
  observedGeneration : Option Int64
  deriving DecidableEq, Repr

/-- What the status of a cluster tells, if there is one. -/
def Cluster.report (c : Cluster) : Report where
  database := c.status.bind (·.database)
  haproxy := c.status.bind (·.haproxy)
  proxysql := c.status.bind (·.proxysql)
  host := c.status.bind (·.host)
  observedGeneration := c.status.bind (·.observedGeneration)

namespace Store

variable {s t u : Store}

/-- The same clusters are stored, and their status tells the same. -/
def SameReports (s t : Store) : Prop :=
  ∀ ns name, (t.clusters.find? ns name).map Cluster.report = (s.clusters.find? ns name).map Cluster.report

theorem SameReports.trans (h : s.SameReports t) (h' : t.SameReports u) : s.SameReports u :=
  fun ns name ↦ (h' ns name).trans (h ns name)

/-- The same clusters are stored, and the same is seen of them. -/
def SameView {β : Type} (view : Cluster → β) (s t : Store) : Prop :=
  ∀ ns name, (t.clusters.find? ns name).map view = (s.clusters.find? ns name).map view

variable {β : Type} {view : Cluster → β}

theorem SameView.refl (s : Store) : s.SameView view s := fun _ _ ↦ rfl

theorem SameView.trans (h : s.SameView view t) (h' : t.SameView view u) : s.SameView view u :=
  fun ns name ↦ (h' ns name).trans (h ns name)

theorem SameView.of_clusters_eq (h : t.clusters = s.clusters) : s.SameView view t := by
  intro ns name
  rw [h]

/-- A cluster is sent back of which the same is seen. -/
theorem sameView_put {ns name : String} {latest new : Cluster} (hread : s.clusters.find? ns name = some latest)
    (hplace : ∀ ns name, Objects.isAt ns name new = Objects.isAt ns name latest) (hview : view new = view latest) :
    s.SameView view { s with clusters := s.clusters.put new } := by
  intro ns' name'
  have hat : Objects.isAt ns name latest = true := List.find?_some hread
  change (Objects.find? ns' name' (s.clusters.put new)).map _ = _
  rw [Objects.find?_put]
  split
  · next hnew =>
    obtain ⟨rfl, rfl⟩ := Objects.isAt_iff.1 hat
    obtain ⟨rfl, rfl⟩ := Objects.isAt_iff.1 ((hplace ns' name').symm.trans hnew)
    rw [hread, Option.map_some, Option.map_some, hview]
  · rfl

end Store

namespace ClusterWrite

open Store

variable {σ : Type} {m m' : σ} {es : List Exchange} {r : Except Failure Unit} {ns name : String} {op : ClusterWrite}
  {settings : Settings} {s t u : Store} {β : Type} {view : Cluster → β}

/-- A write that leaves alone what is seen of a cluster. -/
def KeepsView (view : Cluster → β) (op : ClusterWrite) : Prop :=
  ∀ es old new, op.Changes es old new → view new = view old

/-- Whether something else than the status is written. -/
def SparesStatus : ClusterWrite → Prop
  | .status .. => False
  | .mark .. | .unmark .. | .storage .. => True

theorem SparesStatus.keepsView (h : op.SparesStatus) : op.KeepsView (·.status) := by
  intro es old new hchanges
  cases op with
  | status => cases h
  | mark | unmark =>
    obtain ⟨annotations, rfl, -⟩ := hchanges
    rfl
  | storage =>
    obtain rfl := hchanges
    rfl

/-- What a server holds of a cluster has come about by changes, each of what was stored by then. -/
inductive Changed (op : ClusterWrite) (ns name : String) : Store → Store → Prop where
  | none (s : Store) : Changed op ns name s s
  | change {s t : Store} {es : List Exchange} {latest new : Cluster} (stored : s.clusters.find? ns name = some latest)
      (changes : op.Changes es latest new) (rest : Changed op ns name { s with clusters := s.clusters.put new } t) :
      Changed op ns name s t

namespace Changed

theorem trans (h : op.Changed ns name s t) (h' : op.Changed ns name t u) : op.Changed ns name s u := by
  induction h with
  | none => exact h'
  | change stored changes rest ih => exact .change stored changes (ih h')

/-- What every change leaves alone is seen of the clusters as before. -/
theorem sameView (h : op.Changed ns name s t) (hkeeps : op.KeepsView view) : s.SameView view t := by
  induction h with
  | none => exact .refl _
  | change stored changes rest ih =>
    exact (sameView_put stored (fun ns name ↦ (changes.same_place ns name).1) (hkeeps _ _ _ changes)).trans ih

/-- The cluster is still stored, and what every change keeps holds of it if it did before. -/
theorem invariant {I : Cluster → Prop} {held : Cluster} (h : op.Changed ns name s t)
    (hkeeps : ∀ es old new, op.Changes es old new → I old → I new) (hheld : s.clusters.find? ns name = some held)
    (hI : I held) : ∃ after, t.clusters.find? ns name = some after ∧ I after := by
  induction h generalizing held with
  | none => exact ⟨held, hheld, hI⟩
  | change stored changes rest ih =>
    obtain rfl := Option.some.inj (stored.symm.trans hheld)
    exact ih (Objects.find?_put_of_find? stored (changes.same_place ns name).1) (hkeeps _ _ _ changes hI)

end Changed

/-- A cluster is as a write is to leave it: it needs none, or it was the last to be put in its place. -/
def Settled (op : ClusterWrite) (ns name : String) (s t : Store) : Prop :=
  ∃ es held, t.clusters.find? ns name = some held ∧
    (op.Needless es held ∨
      ∃ u old, op.Changed ns name s u ∧ u.clusters.find? ns name = some old ∧ op.Changes es old held)

/-- An attempt at a write: what was read is sent back, and nobody else wrote in between. -/
theorem Attempt.changed (h : op.Attempt ns name es r) (hs : s.MayGive es t) :
    op.Changed ns name s t ∧ (r = .ok () → op.Settled ns name s t) := by
  cases h with
  | unread e =>
    obtain ⟨u, hread, rfl⟩ := hs
    obtain ⟨rfl, -⟩ := hread.read
    exact ⟨.none _, nofun⟩
  | missing what =>
    obtain ⟨u, hread, rfl⟩ := hs
    obtain ⟨rfl, -⟩ := hread.read
    exact ⟨.none _, nofun⟩
  | @needless latest asides noCalls nothing =>
    obtain ⟨u, hread, hrest⟩ := hs
    obtain ⟨rfl, hstored⟩ := hread.read
    rw [hrest.eq_of_calls_eq_nil noCalls]
    exact ⟨.none _, fun _ ↦ ⟨asides, latest, hstored _ rfl, .inl nothing⟩⟩
  | @sent latest new x asides reply noCalls changes asks =>
    obtain ⟨u, hread, hrest⟩ := hs
    obtain ⟨rfl, hstored⟩ := hread.read
    obtain ⟨v, hasides, w, hsent, rfl⟩ := mayGive_append.1 hrest
    obtain rfl := hasides.eq_of_calls_eq_nil noCalls
    have hlatest := hstored _ rfl
    rcases hsent.replaced asks with rfl | ⟨rfl, e, rfl⟩
    · have hput := Objects.find?_put_of_find? hlatest (changes.same_place ns name).1
      exact ⟨.change hlatest changes (.none _), fun _ ↦ ⟨asides, new, hput, .inr ⟨v, latest, .none _, hlatest, changes⟩⟩⟩
    · exact ⟨.none _, nofun⟩

/-- Attempts at a write that lost. What a server has performed may be answered as if it had lost. -/
theorem changed_of_lost {p : Pass σ Unit} (h : Lost p m es m') (hs : s.MayGive es t)
    (hattempt : ∀ m es r m', p.Runs m es r m' → op.Attempt ns name es r) : op.Changed ns name s t := by
  induction h generalizing s with
  | none =>
    obtain rfl : t = s := hs
    exact .none _
  | next past attempt conflict rest ih =>
    obtain ⟨u, hattempted, v, hwait, hrest⟩ := mayGive_append.1 hs
    obtain rfl := hwait.eq_of_call? rfl
    exact ((hattempt _ _ _ _ attempt).changed hattempted).1.trans (ih hrest)

/-- A write, however often it is tried. -/
theorem changed_of_retry {p : Pass σ Unit} (h : (retryOnConflict settings.writeAttempts p).Runs m es r m')
    (hs : s.MayGive es t) (hattempt : ∀ m es r m', p.Runs m es r m' → op.Attempt ns name es r) :
    op.Changed ns name s t ∧ (r = .ok () → op.Settled ns name s t) := by
  obtain ⟨lost, last, m₁, rfl, hlost, hlast⟩ := Runs.retryOnConflict h
  obtain ⟨u, hs₁, hs₂⟩ := mayGive_append.1 hs
  have hbefore := changed_of_lost hlost hs₁ hattempt
  obtain ⟨hchanged, hsettled⟩ := (hattempt _ _ _ _ hlast).changed hs₂
  refine ⟨hbefore.trans hchanged, fun hr ↦ ?_⟩
  obtain ⟨fs, held, hheld, hneedless | ⟨v, old, hold, hstored, hchanges⟩⟩ := hsettled hr
  · exact ⟨fs, held, hheld, .inl hneedless⟩
  · exact ⟨fs, held, hheld, .inr ⟨v, old, hbefore.trans hold, hstored, hchanges⟩⟩

/-- A write changes nothing but its cluster, and settles it if it ends well. -/
theorem changed_of_pass (h : (op.pass settings).Runs m es r m') (hs : s.MayGive es t) :
    (t = s ∧ r ≠ .ok ()) ∨ ∃ ns name, op.target? = some (ns, name) ∧ op.Changed ns name s t ∧
      (r = .ok () → op.Settled ns name s t) := by
  rcases runs_pass h with ⟨rfl, hr⟩ | ⟨ns, name, p, r', htarget, hrun, hok, hattempt⟩
  · exact .inl ⟨hs, hr⟩
  · obtain ⟨hchanged, hsettled⟩ := changed_of_retry hrun hs hattempt
    exact .inr ⟨ns, name, htarget, hchanged, fun hr ↦ hsettled (hok hr)⟩

/-- An attempt at a write of a cluster that is stored fails only as a call did. -/
theorem Attempt.error_mem {f : Failure} {held : Cluster} (h : op.Attempt ns name es (.error f)) (hs : s.MayGive es t)
    (hheld : s.clusters.find? ns name = some held) : ∃ call e, ⟨.call call, .error e⟩ ∈ es ∧ f = .error e := by
  rcases h.fails_with with ⟨what, rfl, -⟩ | hfailed
  · obtain ⟨u, hread, -⟩ := hs
    cases hheld.symm.trans (hread.read.2 _ rfl)
  · exact hfailed

/-- A write of a cluster that is stored, however often it is tried, keeps what every change keeps. It ends well, with the
cluster as it is to be, or it fails as a call did. -/
theorem stored_of_retry {I J : Cluster → Prop} {held : Cluster} {p : Pass σ Unit}
    (h : (retryOnConflict settings.writeAttempts p).Runs m es r m') (hs : s.MayGive es t)
    (hattempt : ∀ m es r m', p.Runs m es r m' → op.Attempt ns name es r)
    (hheld : s.clusters.find? ns name = some held) (hI : I held)
    (hchanges : ∀ es old new, op.Changes es old new → I old → I new ∧ J new)
    (hneedless : ∀ es c, op.Needless es c → I c → J c) :
    ∃ after, t.clusters.find? ns name = some after ∧ I after ∧
      ((r = .ok () ∧ J after) ∨ ∃ call e, ⟨.call call, .error e⟩ ∈ es ∧ r = .error (.error e)) := by
  have hkeeps : ∀ es old new, op.Changes es old new → I old → I new :=
    fun es old new hnew hold ↦ (hchanges es old new hnew hold).1
  obtain ⟨hchanged, hsettled⟩ := changed_of_retry h hs hattempt
  obtain ⟨after, hafter, hIafter⟩ := hchanged.invariant hkeeps hheld hI
  refine ⟨after, hafter, hIafter, ?_⟩
  rcases r with f | _
  · obtain ⟨lost, last, m₁, rfl, hlost, hlast⟩ := Runs.retryOnConflict h
    obtain ⟨u, hs₁, hs₂⟩ := mayGive_append.1 hs
    obtain ⟨latest, hlatest, -⟩ := (changed_of_lost hlost hs₁ hattempt).invariant hkeeps hheld hI
    obtain ⟨call, e, hmem, rfl⟩ := (hattempt _ _ _ _ hlast).error_mem hs₂ hlatest
    exact .inr ⟨call, e, List.mem_append_right lost hmem, rfl⟩
  · refine .inl ⟨rfl, ?_⟩
    obtain ⟨fs, _, hstored, hdone⟩ := hsettled rfl
    obtain rfl := Option.some.inj (hafter.symm.trans hstored)
    rcases hdone with hnothing | ⟨u, old, hbefore, hold, hnew⟩
    · exact hneedless fs after hnothing hIafter
    · obtain ⟨_, hfound, hIold⟩ := hbefore.invariant hkeeps hheld hI
      obtain rfl := Option.some.inj (hold.symm.trans hfound)
      exact (hchanges fs old after hnew hIold).2

/-- A write that leaves alone what is seen of clusters. -/
theorem sameView_of_pass (h : (op.pass settings).Runs m es r m') (hkeeps : op.KeepsView view) (hs : s.MayGive es t) :
    s.SameView view t := by
  rcases changed_of_pass h hs with ⟨rfl, -⟩ | ⟨ns, name, -, hchanged, -⟩
  · exact .refl _
  · exact hchanged.sameView hkeeps

end ClusterWrite

namespace Woven

variable {σ β : Type} {settings : Settings} {P : ClusterWrite → Prop} {es : List Exchange} {s t : Store}
  {view : Cluster → β}

/-- Where nothing else is written to clusters, the same is seen of them as before. -/
theorem sameView (h : Woven σ settings P es) (hP : ∀ op, P op → op.KeepsView view) (hs : s.MayGive es t) :
    s.SameView view t := by
  induction h generalizing s with
  | nil => exact .of_clusters_eq (congrArg Store.clusters hs)
  | other elsewhere rest ih =>
    obtain ⟨u, hx, hrest⟩ := hs
    exact (Store.SameView.of_clusters_eq (hx.clusters_eq elsewhere)).trans (ih hrest)
  | write allowed run rest ih =>
    obtain ⟨u, hwrite, hrest⟩ := Store.mayGive_append.1 hs
    exact (ClusterWrite.sameView_of_pass run (hP _ allowed) hwrite).trans (ih hrest)

end Woven

end GaleraOperator
