import GaleraOperator.Proofs.Volume.ClusterWrites
import GaleraOperator.Proofs.Volume.Transition

/-!
# The request that a rollback overwrites

A pass that gives a resize up, or refuses one, sets the requested storage to what the StatefulSet was made with. It goes
by the copy of the cluster that it was given, and meanwhile the owner may have asked for something else. The write reads
the cluster afresh, so nothing else of it is lost; but the request that it finds is not compared with the one that the
pass was about, and is overwritten whatever it is.
-/

namespace GaleraOperator

open Kube Pass

namespace VersionedServer

variable {s t u : VersionedServer} {x : Exchange} {es fs : List Exchange} {ws : List Accepted}

/-- What may happen at a server while the operator is at work, and which of its replacements of clusters are accepted.
What it asks about other things may be answered by anything. Before, between and after the exchanges others may do anything,
and any number of times. -/
inductive Interleaved : VersionedServer → List Exchange → List Accepted → VersionedServer → Prop where
  | done (s : VersionedServer) : Interleaved s [] [] s
  | elsewhere {s t u : VersionedServer} {es : List Exchange} {ws : List Accepted} (change : s.Elsewhere t)
      (rest : Interleaved t es ws u) : Interleaved s es ws u
  | other {s u : VersionedServer} {x : Exchange} {es : List Exchange} {ws : List Accepted}
      (other : ∀ call ∈ x.call?, call.concernsClusters = false) (rest : Interleaved s es ws u) :
      Interleaved s (x :: es) ws u
  | exchange {s t u : VersionedServer} {x : Exchange} {es : List Exchange} {w : Option Accepted} {ws : List Accepted}
      (answer : s.Answers x w t) (rest : Interleaved t es ws u) : Interleaved s (x :: es) (w.toList ++ ws) u

namespace Interleaved

theorem append (h : Interleaved s (es ++ fs) ws u) :
    ∃ t ws₁ ws₂, Interleaved s es ws₁ t ∧ Interleaved t fs ws₂ u ∧ ws = ws₁ ++ ws₂ := by
  generalize hall : es ++ fs = all at h
  induction h generalizing es with
  | done s =>
    obtain ⟨rfl, rfl⟩ := List.append_eq_nil_iff.1 hall
    exact ⟨s, [], [], .done s, .done s, rfl⟩
  | elsewhere change rest ih =>
    obtain ⟨t, ws₁, ws₂, hfirst, hsecond, hws⟩ := ih hall
    exact ⟨t, ws₁, ws₂, .elsewhere change hfirst, hsecond, hws⟩
  | other other rest ih =>
    cases es with
    | nil =>
      cases hall
      exact ⟨_, [], _, .done _, .other other rest, rfl⟩
    | cons y es =>
      cases hall
      obtain ⟨t, ws₁, ws₂, hfirst, hsecond, rfl⟩ := ih rfl
      exact ⟨t, _, ws₂, .other other hfirst, hsecond, rfl⟩
  | exchange answer rest ih =>
    cases es with
    | nil =>
      cases hall
      exact ⟨_, [], _, .done _, .exchange answer rest, rfl⟩
    | cons y es =>
      cases hall
      obtain ⟨t, ws₁, ws₂, hfirst, hsecond, rfl⟩ := ih rfl
      exact ⟨t, _, ws₂, .exchange answer hfirst, hsecond, (List.append_assoc ..).symm⟩

/-- What is about other things than clusters leads to no replacement of one. -/
theorem eq_nil_of_other (h : Interleaved s es ws u) (hother : ∀ call ∈ calls es, call.concernsClusters = false) :
    ws = [] := by
  induction h with
  | done s => rfl
  | elsewhere change rest ih => exact ih hother
  | other other rest ih =>
    rw [calls_cons] at hother
    exact ih fun call hcall ↦ hother call (List.mem_append_right _ hcall)
  | exchange answer rest ih =>
    rw [calls_cons] at hother
    rw [ih fun call hcall ↦ hother call (List.mem_append_right _ hcall), List.append_nil]
    have hasked {y : Exchange} {ns : String} {c : Cluster} {reply : Except Error Cluster}
        (hy : ∀ call ∈ y.call?.toList, call.concernsClusters = false) (hasks : y.replacement? = some (ns, c, reply)) :
        False := by
      obtain ⟨effect, answer⟩ := y
      cases effect with
      | call call =>
        have hcall : call.concernsClusters = false := hy call (List.mem_singleton_self _)
        cases call <;> contradiction
      | now | wait | measure | touch => cases hasks
    have hfirst := fun call hcall ↦ hother call (List.mem_append_left _ hcall)
    cases answer with
    | read | outdated | failed | aside => rfl
    | accepted version asks current fresh => exact (hasked hfirst asks).elim
    | unheard version e asks current fresh fails => exact (hasked hfirst asks).elim

/-- What is about clusters only is a history of the shared server. -/
theorem history (h : Interleaved s es ws u) (hclusters : ∀ call ∈ calls es, call.concernsClusters = true) :
    History s es ws u := by
  induction h with
  | done s => exact .done s
  | elsewhere change rest ih => exact .elsewhere change (ih hclusters)
  | @other s u x es ws other rest ih =>
    rw [calls_cons] at hclusters
    have hnone : x.call? = none := by
      cases hx : x.call? with
      | none => rfl
      | some call =>
        have hcall := hclusters call (List.mem_append_left _ (Option.mem_toList.2 hx))
        rw [other call hx] at hcall
        cases hcall
    exact .exchange (.aside hnone) (ih fun call hcall ↦ hclusters call (List.mem_append_right _ hcall))
  | exchange answer rest ih =>
    rw [calls_cons] at hclusters
    exact .exchange answer (ih fun call hcall ↦ hclusters call (List.mem_append_right _ hcall))

end Interleaved

/-- An accepted replacement has left the requested storage of a cluster as it was. -/
def Accepted.KeepsStorage (w : Accepted) (ns name : String) : Prop :=
  (w.after.find? ns name).map (·.requestedStorage) = (w.before.find? ns name).map (·.requestedStorage)

/-- An accepted replacement has set the requested storage of a cluster, whatever it was before, and has changed nothing
else of it but its version. -/
def Accepted.SetsStorage (w : Accepted) (ns name quantity : String) : Prop :=
  ∃ old version, w.before.find? ns name = some old ∧
    w.after.find? ns name = some ((old.withStorage quantity).withVersion version)

end VersionedServer

open VersionedServer

variable {σ : Type} {m m' : σ} {es : List Exchange} {settings : Settings} {ns name : String} {s u : VersionedServer}
  {ws : List Accepted}

/-- The writes of clusters are about clusters only. -/
theorem ClusterWrite.asks_pass (op : ClusterWrite) :
    Asks (fun call ↦ call.concernsClusters = true) (op.pass settings : Pass σ Unit) := by
  have hchange (ns name : String) (change : Cluster → Option Cluster) :
      Asks (fun call ↦ call.concernsClusters = true) (changeCluster settings ns name change : Pass σ Unit) :=
    asks_changeCluster fun call hcall ↦ by rcases hcall with rfl | ⟨_, rfl⟩ <;> rfl
  cases op with
  | status u c => exact StatusUpdate.asks_write (fun _ _ ↦ rfl) fun _ _ ↦ rfl
  | mark | unmark | storage => exact hchange _ _ _

/-- What is accepted of woven exchanges is accepted of one of the writes in them. -/
theorem Woven.keeps {P : ClusterWrite → Prop} (h : Woven σ settings P es) (hs : Interleaved s es ws u) :
    ∀ w ∈ ws, ∃ op ns name fs, P op ∧ op.target? = some (ns, name) ∧ op.Keeps ns name fs w := by
  induction h generalizing s ws with
  | nil =>
    rw [hs.eq_nil_of_other (List.forall_mem_nil _)]
    exact List.forall_mem_nil _
  | @other x es elsewhere rest ih =>
    rw [← List.singleton_append] at hs
    obtain ⟨t, ws₁, ws₂, hfirst, hsecond, rfl⟩ := hs.append
    rw [hfirst.eq_nil_of_other (by simpa using elsewhere)]
    exact ih hsecond
  | write allowed run rest ih =>
    obtain ⟨t, ws₁, ws₂, hfirst, hsecond, rfl⟩ := hs.append
    have hhistory := hfirst.history (ClusterWrite.asks_pass _ _ _ _ _ run)
    intro w hw
    rcases List.mem_append.1 hw with hw | hw
    · rcases ClusterWrite.runs_pass run with ⟨rfl, -⟩ | ⟨ns, name, p, r', htarget, hrun, -, hattempt⟩
      · rw [(hhistory.of_calls_eq_nil rfl).1] at hw
        cases hw
      · obtain ⟨-, hkeeps, -⟩ := ClusterWrite.outcome_of_retry hrun hhistory hattempt
        exact ⟨_, ns, name, _, allowed, htarget, hkeeps w hw⟩
    · exact ih hsecond w hw

namespace Volume

variable {α : Type} {c : Cluster} {configured : String} {w : Accepted}

/-- Writing the note of a resize leaves the requested storage as it was. -/
theorem keepsStorage_of_woven (h : Woven σ settings (IsNoteWrite ns name) es) (hs : Interleaved s es ws u) :
    ∀ w ∈ ws, w.KeepsStorage ns name := by
  intro w hw
  obtain ⟨op, ns', name', fs, hnote, htarget, old, new, version, hbefore, hchanges, -, hafter, -⟩ := h.keeps hs w hw
  have hsame : (ns', name') = (ns, name) ∧ new.requestedStorage = old.requestedStorage := by
    rcases hnote with ⟨time, rfl⟩ | rfl <;> cases htarget <;> obtain ⟨annotations, rfl, -⟩ := hchanges <;>
      exact ⟨rfl, rfl⟩
  obtain ⟨hplace, hstorage⟩ := hsame
  cases hplace
  rw [Accepted.KeepsStorage, hbefore, hafter]
  exact congrArg some hstorage

theorem setsStorage_of_keeps (h : (ClusterWrite.storage ns name configured).Keeps ns name es w) :
    w.SetsStorage ns name configured := by
  obtain ⟨old, new, version, hbefore, hchanges, -, hafter, -⟩ := h
  obtain rfl : new = old.withStorage configured := hchanges
  exact ⟨old, version, hbefore, hafter⟩

/-- The storage was set, whatever was stored by then, or it was found to be so. Nothing else that was accepted has changed
it. -/
inductive IsReset (ns name configured : String) (es : List Exchange) : List Accepted → Prop where
  | overwritten {before after : List Accepted} {w : Accepted} (earlier : ∀ w ∈ before, w.KeepsStorage ns name)
      (sets : w.SetsStorage ns name configured) (later : ∀ w ∈ after, w.KeepsStorage ns name) :
      IsReset ns name configured es (before ++ w :: after)
  | found {ws : List Accepted} {latest : Cluster} (read : ⟨.call (.getCluster ns name), .ok (some latest)⟩ ∈ es)
      (equal : latest.requestedStorage = configured) (kept : ∀ w ∈ ws, w.KeepsStorage ns name) :
      IsReset ns name configured es ws

/-- A pass that comes to a verdict has set the storage or found it so. -/
theorem isReset_of_isVerdict {r : Except Failure α} (h : Course σ settings ns name configured es r)
    (hs : Interleaved s es ws u) (hverdict : IsVerdict es r) : IsReset ns name configured es ws := by
  cases h with
  | noted notes undecided => exact absurd hverdict undecided
  | reset notes run later settled =>
    obtain rfl := settled hverdict
    obtain ⟨t₁, ws₁, _, hbefore, hrest, rfl⟩ := hs.append
    obtain ⟨t₂, ws₂, ws₃, hduring, hafter, rfl⟩ := hrest.append
    have hearlier := keepsStorage_of_woven notes hbefore
    have hlater := keepsStorage_of_woven later hafter
    rcases ClusterWrite.runs_pass run with ⟨-, hr⟩ | ⟨_, _, p, r', htarget, hrun, hok, hattempt⟩
    · exact absurd rfl hr
    cases htarget
    obtain ⟨hlength, hkeeps, hunneeded⟩ :=
      ClusterWrite.outcome_of_retry hrun (hduring.history (ClusterWrite.asks_pass _ _ _ _ _ run)) hattempt
    match ws₂ with
    | [] =>
      obtain ⟨before, latest, asides, rfl, -, hequal⟩ := hunneeded (hok rfl) rfl
      exact .found (by simp) hequal (List.forall_mem_append.2 ⟨hearlier, hlater⟩)
    | [w] => exact .overwritten hearlier (setsStorage_of_keeps (hkeeps w (List.mem_singleton_self _))) hlater
    | _ :: _ :: _ => exact absurd hlength (by simp)

/-- Everything that is accepted of a course leaves the storage as it was or sets it. -/
theorem Course.accepted {r : Except Failure α} (h : Course σ settings ns name configured es r)
    (hs : Interleaved s es ws u) : ∀ w ∈ ws, w.KeepsStorage ns name ∨ w.SetsStorage ns name configured := by
  cases h with
  | noted notes undecided => exact fun w hw ↦ .inl (keepsStorage_of_woven notes hs w hw)
  | reset notes run later settled =>
    obtain ⟨t₁, ws₁, _, hbefore, hrest, rfl⟩ := hs.append
    obtain ⟨t₂, ws₂, ws₃, hduring, hafter, rfl⟩ := hrest.append
    intro w hw
    rcases List.mem_append.1 hw with hw | hw
    · exact .inl (keepsStorage_of_woven notes hbefore w hw)
    rcases List.mem_append.1 hw with hw | hw
    · have hstorage : Woven σ settings (· = .storage ns name configured) _ := .of_pass rfl run
      obtain ⟨op, _, _, fs, rfl, htarget, hkeeps⟩ := hstorage.keeps hduring w hw
      cases htarget
      exact .inr (setsStorage_of_keeps hkeeps)
    · exact .inl (keepsStorage_of_woven later hafter w hw)

/-- Every request that was overwritten was still the one that the pass was about. -/
def SparesNewer (ns : String) (c : Cluster) (ws : List Accepted) : Prop :=
  ∀ w ∈ ws, ∀ old new, w.before.find? ns c.name = some old → w.after.find? ns c.name = some new →
    new.requestedStorage ≠ old.requestedStorage → old.requestedStorage = c.requestedStorage

/-- Which requests a pass over volumes overwrites, whatever others write to the cluster meanwhile. What it has accepted
leaves the requested storage alone or sets it to what the StatefulSet was made with, and a pass that comes to a verdict
has done so, unless it has found it so. It spares what the owner has asked for since exactly if what it has replaced was
the same or still the request that the pass was about. -/
theorem sparesNewer_iff {r : Except Failure ResizeOutcome} (h : (reconcile settings c).Runs m es r m')
    (hns : c.metadata.ns? = some ns) (hs : s.Interleaved es ws u) :
    (∀ w ∈ ws, w.KeepsStorage ns c.name ∨
      ∃ configured, ToldConfigured es ns c configured ∧ w.SetsStorage ns c.name configured) ∧
    (IsVerdict es r → ∃ configured, ToldConfigured es ns c configured ∧ IsReset ns c.name configured es ws) ∧
    (SparesNewer ns c ws ↔ ∀ w ∈ ws, ∀ configured old, w.SetsStorage ns c.name configured →
      w.before.find? ns c.name = some old →
        old.requestedStorage = configured ∨ old.requestedStorage = c.requestedStorage) := by
  have hcourse := course_of_reconcile h hns
  have haccepted : ∀ w ∈ ws, w.KeepsStorage ns c.name ∨
      ∃ configured, ToldConfigured es ns c configured ∧ w.SetsStorage ns c.name configured := by
    rcases hcourse with ⟨hother, -⟩ | ⟨configured, htold, hcourse⟩
    · rw [hs.eq_nil_of_other hother]
      exact List.forall_mem_nil _
    · exact fun w hw ↦ (hcourse.accepted hs w hw).imp_right fun hsets ↦ ⟨configured, htold, hsets⟩
  refine ⟨haccepted, fun hverdict ↦ ?_, fun hspares w hw configured old hsets hbefore ↦ ?_, ?_⟩
  · rcases hcourse with ⟨-, hundecided⟩ | ⟨configured, htold, hcourse⟩
    · exact absurd hverdict hundecided
    · exact ⟨configured, htold, isReset_of_isVerdict hcourse hs hverdict⟩
  · obtain ⟨_, version, hstored, hafter⟩ := hsets
    obtain rfl := Option.some.inj (hbefore.symm.trans hstored)
    by_cases hequal : old.requestedStorage = configured
    · exact .inl hequal
    · exact .inr (hspares w hw old _ hbefore hafter (Ne.symm hequal))
  · intro hsets w hw old new hbefore hafter hne
    rcases haccepted w hw with hkeeps | ⟨configured, -, hset⟩
    · rw [Accepted.KeepsStorage, hbefore, hafter] at hkeeps
      exact absurd (Option.some.inj hkeeps) hne
    · have hor := hsets w hw configured old hset hbefore
      obtain ⟨_, version, hstored, hafter'⟩ := hset
      obtain rfl := Option.some.inj (hbefore.symm.trans hstored)
      obtain rfl := Option.some.inj (hafter.symm.trans hafter')
      exact hor.resolve_left (Ne.symm hne)

/-- A cluster whose owner asks for less than its claim has. -/
private def modest : Cluster := growing.withVersion "1"

/-- The cluster after its owner has thought better of it. -/
private def renewed : Cluster := growing.withStorage "4Gi"

/-- What a server holds besides the cluster: a claim and a StatefulSet of one size. -/
private def largeStore : Store :=
  { growingStore with
    claims := [{ growingClaim with status := some ⟨some (.ofList [("storage", "3Gi")]), none, []⟩ }]
    statefulSets := [{ growingSet with
      spec := some ⟨⟨none, none⟩, some [⟨{ ObjectMeta.empty with name := some "datadir" },
        some ⟨some ⟨some (.ofList [("storage", "3Gi")]), []⟩, []⟩, none⟩], []⟩ }] }

private theorem volumes_large : dataClaims largeStore "prod" modest = largeStore.claims ∧
    usedClaims largeStore "prod" modest = largeStore.claims := volumes_of_onlyClaim rfl rfl rfl rfl

private theorem decides_large : Decides largeStore "prod" modest 3221225472 "3Gi" 3221225472 2147483648 where
  used := by
    rw [volumes_large.2]
    exact List.cons_ne_nil _ _
  least := by
    rw [volumes_large.1]
    rfl
  template := ⟨_, rfl, rfl⟩
  configuredBytes_eq := by decide +kernel
  requested_eq := by decide +kernel

/-- The server that the owner writes to as well. -/
private def modestServer : VersionedServer where
  clusters := [modest]
  given := ["1"]
  versioned := by
    intro c hc
    rw [List.mem_singleton.1 hc]
    exact ⟨"1", List.mem_singleton_self _, rfl⟩

/-- The cluster as the pass finds it when it writes, and as it leaves it. -/
private def found : Cluster := renewed.withVersion "2"

private def rolledBack : Cluster := (found.withStorage "3Gi").withVersion "3"

/-- How the pass writes the storage. -/
private def resetting : List Exchange :=
  [⟨.call (.getCluster "prod" "db"), .ok (some found)⟩,
    ⟨.call (.replaceCluster "prod" (found.withStorage "3Gi")), .ok rolledBack⟩]

/-- A pass is about the request for less; meanwhile the owner asks for more, and that is overwritten. -/
private theorem runs_reconcile_modest :
    (reconcile .standard modest : Pass Unit ResizeOutcome).Runs () (reading largeStore "prod" modest ++ resetting)
      (.error (.error (.shrink "2Gi" "3Gi"))) () := by
  have hstorage : (changeCluster .standard "prod" "db" (setStorage "3Gi") : Pass Unit Unit).Runs () resetting (.ok ())
      () := .ask _ (.ask _ (.done _))
  have hrefuse : (refuseShrink .standard "prod" modest "3Gi" 2147483648 3221225472 : Pass Unit ResizeOutcome).Runs ()
      resetting (.error (.error (.shrink "2Gi" "3Gi"))) () := by
    refine runs_bind.2 (.inl ⟨resetting, [], (), (), rfl, hstorage, ?_⟩)
    refine runs_orOverflow_bind.2 (.inr ⟨"2Gi", rfl, runs_orOverflow_bind.2 (.inr ⟨"3Gi", rfl, ?_⟩)⟩)
    exact runs_fail.2 ⟨rfl, rfl, rfl⟩
  refine runs_reconcile_of_decides rfl decides_large ?_
  refine runs_orFail_bind.2 (.inr ⟨3221225472, decides_large.configuredBytes_eq, ?_⟩)
  exact runs_orFail_bind.2 (.inr ⟨2147483648, decides_large.requested_eq, hrefuse⟩)

private theorem interleaved_modest : ∃ w u, modestServer.Interleaved (reading largeStore "prod" modest ++ resetting) [w] u ∧
    w.before.find? "prod" "db" = some found ∧ w.after.find? "prod" "db" = some rolledBack ∧
      u.find? "prod" "db" = some rolledBack := by
  let edited := modestServer.store renewed "2"
  let reset := edited.store (found.withStorage "3Gi") "3"
  have hcurrent : edited.Current "prod" (found.withStorage "3Gi") := ⟨found, rfl, rfl⟩
  have hwrite : edited.Interleaved resetting [⟨edited, reset⟩] reset :=
    .exchange (.read "prod" "db") (.exchange (.accepted "3" rfl hcurrent (by decide)) (.done reset))
  have hother {x : Exchange} {es : List Exchange} (hx : ∀ call ∈ x.call?, call.concernsClusters = false)
      (hrest : modestServer.Interleaved es [⟨edited, reset⟩] reset) :
      modestServer.Interleaved (x :: es) [⟨edited, reset⟩] reset := .other hx hrest
  refine ⟨⟨edited, reset⟩, reset, ?_, rfl, rfl, rfl⟩
  refine hother (by rintro _ ⟨⟩; rfl) (hother (by rintro _ ⟨⟩; rfl) (hother (by rintro _ ⟨⟩; rfl) ?_))
  exact .elsewhere (.stored renewed "2" (by decide)) hwrite

/-- A request that the owner stored after the pass was given its copy does not survive the pass. -/
theorem not_sparesNewer_renewed : ∃ es w u,
    (reconcile .standard modest : Pass Unit ResizeOutcome).Runs () es (.error (.error (.shrink "2Gi" "3Gi"))) () ∧
      modestServer.Interleaved es [w] u ∧
      (w.before.find? "prod" modest.name).map (·.requestedStorage) = some "4Gi" ∧
      (u.find? "prod" modest.name).map (·.requestedStorage) = some "3Gi" ∧
      modest.requestedStorage = "2Gi" ∧ ¬SparesNewer "prod" modest [w] := by
  obtain ⟨w, u, hinterleaved, hbefore, hafter, hend⟩ := interleaved_modest
  refine ⟨_, w, u, runs_reconcile_modest, hinterleaved, ?_, ?_, rfl, fun hspares ↦ ?_⟩
  · rw [show modest.name = "db" from rfl, hbefore]
    rfl
  · rw [show modest.name = "db" from rfl, hend]
    rfl
  · have hequal := hspares w (List.mem_singleton_self _) _ _ hbefore hafter (by decide)
    exact absurd hequal (by decide)

/-- The pass comes to its verdict, and has replaced a request that was neither the same nor the one it was about. -/
theorem sparesNewer_iff_renewed : ∃ es w u,
    (reconcile .standard modest : Pass Unit ResizeOutcome).Runs () es (.error (.error (.shrink "2Gi" "3Gi"))) () ∧
      modestServer.Interleaved es [w] u ∧
      (∃ configured, ToldConfigured es "prod" modest configured ∧ IsReset "prod" "db" configured es [w]) ∧
      ¬(∀ configured old, w.SetsStorage "prod" "db" configured → w.before.find? "prod" "db" = some old →
        old.requestedStorage = configured ∨ old.requestedStorage = "2Gi") := by
  obtain ⟨w, u, hinterleaved, hbefore, hafter, -⟩ := interleaved_modest
  obtain ⟨-, hverdict, hiff⟩ := sparesNewer_iff runs_reconcile_modest rfl hinterleaved
  refine ⟨_, w, u, runs_reconcile_modest, hinterleaved, hverdict ⟨_, rfl, rfl, ?_⟩, fun hall ↦ ?_⟩
  · have hresetting : Store.Granted resetting := Store.granted_append.2 ⟨Store.granted_ok, Store.granted_ok⟩
    exact fun call e hmem ↦ absurd hmem (Store.granted_append.2 ⟨granted_reading, hresetting⟩ call e)
  · have hspares : SparesNewer "prod" modest [w] := hiff.2 (List.forall_mem_singleton.2 hall)
    have hequal := hspares w (List.mem_singleton_self _) _ _ hbefore hafter (by decide)
    exact absurd hequal (by decide)

end Volume

end GaleraOperator
