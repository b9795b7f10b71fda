import GaleraOperator.Proofs.ClusterAccess
import GaleraOperator.Proofs.SharedServer
import GaleraOperator.Proofs.Status.Writing
import GaleraOperator.Volume.Reconcile

/-!
# No update of a cluster is lost

The operator writes its status, its note of a resize and, when it gives up a resize, the requested storage onto a
cluster that others write to as well. Every attempt reads the cluster afresh and sends what it read with only its own
part changed, so whatever the server accepts is the stored cluster with only that part changed. An attempt is repeated
only if its write was refused, so no more than one is accepted.
-/

namespace GaleraOperator

open Pass

/-- A cluster is not stored in two places. -/
theorem Objects.isAt_eq_false {ns name ns' name' : String} {c : Cluster} (h : isAt ns name c = true)
    (hother : ¬(ns' = ns ∧ name' = name)) : isAt ns' name' c = false := by
  simp only [isAt, Bool.and_eq_true, decide_eq_true_eq] at h
  rw [Bool.eq_false_iff]
  intro hat
  simp only [isAt, Bool.and_eq_true, decide_eq_true_eq] at hat
  exact hother ⟨hat.1.symm.trans h.1, hat.2.symm.trans h.2⟩

/-- What the operator writes to clusters: the status after a pass, the note of a resize, that it is over, and the
requested storage. -/
inductive ClusterWrite where
  | status (u : StatusUpdate) (c : Cluster)
  | mark (ns name time : String)
  | unmark (ns name : String)
  | storage (ns name quantity : String)

namespace ClusterWrite

variable {σ : Type} {m m' : σ} {es fs : List Exchange} {r : Except Failure Unit} {ns name : String}
  {op : ClusterWrite} {old new latest : Cluster}

/-- The pass that writes. -/
def pass (settings : Settings) : ClusterWrite → Pass σ Unit
  | .status u c => u.write settings c
  | .mark ns name time => changeCluster settings ns name (Volume.markStarted time)
  | .unmark ns name => changeCluster settings ns name Volume.markEnded
  | .storage ns name quantity => changeCluster settings ns name (Volume.setStorage quantity)

/-- Where the cluster is that is written. -/
def target? : ClusterWrite → Option (String × String)
  | .status _ c => c.metadata.ns?.map (·, c.name)
  | .mark ns name _ | .unmark ns name | .storage ns name _ => some (ns, name)

/-- The new cluster is the old one with the part changed that is written. The status is brought up to date at a time
that the clock showed during the exchanges. -/
def Changes (es : List Exchange) (old new : Cluster) : ClusterWrite → Prop
  | .status u _ => ∃ time, ⟨.now, time⟩ ∈ es ∧
      new = { old with status := some (u.apply time (old.status.getD .initial)) }
  | .mark _ _ time => ∃ annotations : Dict String,
      new = { old with metadata.annotations := some annotations } ∧
      annotations.get? resizeAnnotation = some time ∧
      ∀ key ≠ resizeAnnotation, annotations.get? key = (old.metadata.annotations.getD .empty).get? key
  | .unmark .. => ∃ annotations : Dict String,
      new = { old with metadata.annotations := some annotations } ∧
      annotations.get? resizeAnnotation = none ∧
      ∀ key ≠ resizeAnnotation, annotations.get? key = (old.metadata.annotations.getD .empty).get? key
  | .storage _ _ quantity => new = { old with spec.database.volume.storage := quantity }

/-- The cluster is already as the write would leave it. A note of a resize is always written. -/
def Needless (es : List Exchange) (latest : Cluster) : ClusterWrite → Prop
  | .status u _ => ∃ time status, ⟨.now, time⟩ ∈ es ∧ latest.status = some status ∧ u.apply time status = status
  | .mark .. => False
  | .unmark .. => latest.resizeMark? = none
  | .storage _ _ quantity => latest.requestedStorage = quantity

theorem Changes.mono (h : op.Changes es old new) (hsub : es ⊆ fs) : op.Changes fs old new := by
  cases op with
  | status u c =>
    obtain ⟨time, hnow, hnew⟩ := h
    exact ⟨time, hsub hnow, hnew⟩
  | mark | unmark | storage => exact h

/-- A write leaves the cluster in its place, and does not choose its version. -/
theorem Changes.same_place (h : op.Changes es old new) (ns name : String) :
    Objects.isAt ns name new = Objects.isAt ns name old ∧ Objects.nameOf new = Objects.nameOf old ∧
      new.metadata.resourceVersion = old.metadata.resourceVersion := by
  cases op with
  | status u c =>
    obtain ⟨time, -, rfl⟩ := h
    exact ⟨rfl, rfl, rfl⟩
  | mark ns name time =>
    obtain ⟨annotations, rfl, -⟩ := h
    exact ⟨rfl, rfl, rfl⟩
  | unmark ns name =>
    obtain ⟨annotations, rfl, -⟩ := h
    exact ⟨rfl, rfl, rfl⟩
  | storage ns name quantity =>
    obtain rfl := h
    exact ⟨rfl, rfl, rfl⟩

/-- How an attempt at a write may go: the cluster is read, and if there is something to change, what was read is sent
back with the change. Nothing else is asked of the server. -/
inductive Attempt (op : ClusterWrite) (ns name : String) : List Exchange → Except Failure Unit → Prop where
  | unread (e : Error) : Attempt op ns name [⟨.call (.getCluster ns name), .error e⟩] (.error (.error e))
  | missing (what : String) :
      Attempt op ns name [⟨.call (.getCluster ns name), .ok none⟩] (.error (.error (.notFound what)))
  | needless {latest : Cluster} {asides : List Exchange} (noCalls : calls asides = [])
      (nothing : op.Needless asides latest) :
      Attempt op ns name (⟨.call (.getCluster ns name), .ok (some latest)⟩ :: asides) (.ok ())
  | sent {latest new : Cluster} {x : Exchange} (asides : List Exchange) (reply : Except Error Cluster)
      (noCalls : calls asides = []) (changes : op.Changes asides latest new)
      (asks : x.replacement? = some (ns, new, reply)) :
      Attempt op ns name (⟨.call (.getCluster ns name), .ok (some latest)⟩ :: (asides ++ [x]))
        ((reply.mapError .error).map fun _ ↦ ())

/-- An attempt at a write fails because the cluster does not exist, or with the error of one of its calls. -/
theorem Attempt.fails_with {f : Failure} (h : op.Attempt ns name es (.error f)) :
    (∃ what, es = [⟨.call (.getCluster ns name), .ok none⟩] ∧ f = .error (.notFound what)) ∨
      ∃ call e, ⟨.call call, .error e⟩ ∈ es ∧ f = .error e := by
  generalize hr : (.error f : Except Failure Unit) = r at h
  cases h with
  | unread e =>
    cases hr
    exact .inr ⟨_, e, List.mem_singleton_self _, rfl⟩
  | missing what =>
    cases hr
    exact .inl ⟨what, rfl, rfl⟩
  | needless => cases hr
  | sent asides reply noCalls changes asks =>
    cases reply with
    | ok => cases hr
    | error e =>
      cases hr
      obtain ⟨call, rfl⟩ := Exchange.exists_call_of_replacement? asks
      exact .inr ⟨call, e, by simp, rfl⟩

/-- One attempt at a change of a cluster. -/
theorem attempt_changeClusterOnce {change : Cluster → Option Cluster}
    (h : (changeClusterOnce ns name change).Runs m es r m')
    (hsome : ∀ latest new, change latest = some new → op.Changes [] latest new)
    (hnone : ∀ latest, change latest = none → op.Needless [] latest) : op.Attempt ns name es r := by
  rcases runs_bind.1 h with ⟨es₁, es₂, latest, m₁, rfl, hfetch, hrest⟩ | ⟨e, rfl, hfetch⟩
  · obtain ⟨rfl, reply, rfl, ⟨_, _, hr⟩ | ⟨_, _, hr⟩ | ⟨_, rfl, hr⟩⟩ := runs_fetchCluster hfetch <;> cases hr
    cases hchange : change latest with
    | none =>
      simp only [hchange] at hrest
      obtain ⟨rfl, rfl, rfl⟩ := runs_pure.1 hrest
      exact .needless rfl (hnone latest hchange)
    | some new =>
      simp only [hchange] at hrest
      rcases runs_call_bind.1 hrest with ⟨e, rfl, rfl, rfl⟩ | ⟨answer, rest, rfl, hend⟩
      · exact .sent [] (.error e) rfl (hsome latest new hchange) rfl
      · obtain ⟨rfl, rfl, rfl⟩ := runs_pure.1 hend
        exact .sent [] (.ok answer) rfl (hsome latest new hchange) rfl
  · obtain ⟨rfl, reply, rfl, ⟨refusal, rfl, hr⟩ | ⟨rfl, what, hr⟩ | ⟨_, _, hr⟩⟩ := runs_fetchCluster hfetch <;> cases hr
    · exact .unread refusal
    · exact .missing what

/-- One attempt at a write of the status. -/
theorem attempt_writeOnce {u : StatusUpdate} {c : Cluster} (h : (u.writeOnce ns name).Runs m es r m') :
    (status u c).Attempt ns name es r := by
  rcases runs_bind.1 h with ⟨es₁, es₂, latest, m₁, rfl, hfetch, hrest⟩ | ⟨e, rfl, hfetch⟩
  · obtain ⟨rfl, reply, rfl, ⟨_, _, hr⟩ | ⟨_, _, hr⟩ | ⟨_, rfl, hr⟩⟩ := runs_fetchCluster hfetch <;> cases hr
    obtain ⟨time, rest, rfl, hcheck⟩ := runs_ask_bind.1 hrest
    have hnow : (⟨.now, time⟩ : Exchange) ∈ [⟨.now, time⟩] := List.mem_singleton_self _
    by_cases hneeds : u.needsWrite time (latest.status.getD .initial) = true
    · simp only [hneeds, if_true] at hcheck
      rcases runs_call_bind.1 hcheck with ⟨e, rfl, rfl, rfl⟩ | ⟨answer, rest, rfl, hend⟩
      · exact .sent [⟨.now, time⟩] (.error e) rfl ⟨time, hnow, rfl⟩ rfl
      · obtain ⟨rfl, rfl, rfl⟩ := runs_pure.1 hend
        exact .sent [⟨.now, time⟩] (.ok answer) rfl ⟨time, hnow, rfl⟩ rfl
    · simp only [hneeds] at hcheck
      obtain ⟨rfl, rfl, rfl⟩ := runs_pure.1 hcheck
      refine .needless rfl ?_
      cases hstatus : latest.status with
      | none =>
        rw [hstatus] at hneeds
        exact absurd (StatusUpdate.needsWrite_initial u time) hneeds
      | some status =>
        rw [hstatus] at hneeds
        exact ⟨time, status, hnow, hstatus, StatusUpdate.apply_eq_self hneeds⟩
  · obtain ⟨rfl, reply, rfl, ⟨refusal, rfl, hr⟩ | ⟨rfl, what, hr⟩ | ⟨_, _, hr⟩⟩ := runs_fetchCluster hfetch <;> cases hr
    · exact .unread refusal
    · exact .missing what

/-- An accepted write has turned the cluster that was stored just before into the one with only the part changed that is
written, under a new version, and has left every other cluster alone. -/
def Keeps (op : ClusterWrite) (ns name : String) (es : List Exchange) (w : VersionedServer.Accepted) : Prop :=
  ∃ old new version, w.before.find? ns name = some old ∧ op.Changes es old new ∧ version ∉ w.before.given ∧
    w.after.find? ns name = some (new.withVersion version) ∧
    ∀ ns' name', ¬(ns' = ns ∧ name' = name) → w.after.find? ns' name' = w.before.find? ns' name'

/-- The cluster was as the write would leave it when it was last read. -/
def Unneeded (op : ClusterWrite) (ns name : String) (es : List Exchange) : Prop :=
  ∃ before latest asides, es = before ++ ⟨.call (.getCluster ns name), .ok (some latest)⟩ :: asides ∧
    calls asides = [] ∧ op.Needless asides latest

open VersionedServer

variable {s t u : VersionedServer} {ws : List Accepted}

/-- What is read is what is stored, and reading is not a write. -/
theorem answers_read {reply : Except Error (Option Cluster)} {w : Option Accepted}
    (h : s.Answers ⟨.call (.getCluster ns name), reply⟩ w t) :
    w = none ∧ t = s ∧ ∀ latest, reply = .ok (some latest) → s.find? ns name = some latest := by
  cases h with
  | read => exact ⟨rfl, rfl, fun latest hreply ↦ Except.ok.inj hreply⟩
  | failed call e fails => exact ⟨rfl, rfl, fun latest hreply ↦ by cases hreply⟩
  | accepted version asks | outdated refusal asks | unheard version e asks => cases asks
  | aside nothing => cases nothing

/-- What was sent is what was read with the change, and if the server accepts it, it carries the version of what is
stored: so it is what is stored with the change. -/
theorem keeps_of_current {version : String} (hlater : s.Later t) (hread : s.find? ns name = some latest)
    (hchanges : op.Changes es latest new) (hcurrent : t.Current ns new) (hfresh : version ∉ t.given) :
    op.Keeps ns name es ⟨t, t.store new version⟩ := by
  obtain ⟨stored, hstored, hversion⟩ := hcurrent
  obtain ⟨hplace, hname, hsame⟩ := hchanges.same_place ns name
  have hat : Objects.isAt ns name latest = true := isAt_of_find? hread
  have hnameOf : Objects.nameOf latest = name := by
    simp only [Objects.isAt, Bool.and_eq_true, decide_eq_true_eq] at hat
    exact hat.2
  rw [hname, hnameOf] at hstored
  rw [hsame] at hversion
  obtain rfl := hlater.eq_of_version hread hstored hversion
  refine ⟨stored, new, version, hstored, hchanges, hfresh, ?_, ?_⟩
  · rw [find?_store, hplace, hat, if_pos rfl]
  · intro ns' name' hother
    have helse : Objects.isAt ns' name' new = false := by
      refine Objects.isAt_eq_false ?_ hother
      rw [hplace, hat]
    rw [find?_store, helse]
    rfl

/-- An attempt has no write accepted, or one, and then it does not end in a conflict. -/
theorem Attempt.outcome (h : op.Attempt ns name es r) (hs : History s es ws u) :
    (ws = [] ∧ (r = .ok () → op.Unneeded ns name es)) ∨
      ∃ w, ws = [w] ∧ op.Keeps ns name es w ∧ ∀ e, r = .error (.error e) → ¬e.isConflict := by
  cases h with
  | unread e =>
    obtain ⟨before, w, after, rest, -, hanswer, hrest, rfl⟩ := hs.cons
    obtain ⟨rfl, -, -⟩ := answers_read hanswer
    exact .inl ⟨(hrest.of_calls_eq_nil rfl).1, fun hr ↦ by cases hr⟩
  | missing what =>
    obtain ⟨before, w, after, rest, -, hanswer, hrest, rfl⟩ := hs.cons
    obtain ⟨rfl, -, -⟩ := answers_read hanswer
    exact .inl ⟨(hrest.of_calls_eq_nil rfl).1, fun hr ↦ by cases hr⟩
  | @needless latest asides noCalls nothing =>
    obtain ⟨before, w, after, rest, -, hanswer, hrest, rfl⟩ := hs.cons
    obtain ⟨rfl, -, -⟩ := answers_read hanswer
    exact .inl ⟨(hrest.of_calls_eq_nil noCalls).1, fun _ ↦ ⟨[], latest, asides, rfl, noCalls, nothing⟩⟩
  | @sent latest new x asides reply noCalls changes asks =>
    obtain ⟨before, w, after, rest, -, hanswer, hrest, rfl⟩ := hs.cons
    obtain ⟨rfl, rfl, hread⟩ := answers_read hanswer
    obtain ⟨t, ws₁, ws₂, hasides, hlast, rfl⟩ := hrest.append
    obtain ⟨rfl, hlater⟩ := hasides.of_calls_eq_nil noCalls
    obtain ⟨stored, w, after, rest, hmore, hanswer, hend, rfl⟩ := hlast.cons
    obtain ⟨rfl, -⟩ := hend.of_calls_eq_nil rfl
    have hsub : asides ⊆ ⟨.call (.getCluster ns name), .ok (some latest)⟩ :: (asides ++ [x]) := by
      intro y hy
      exact List.mem_cons_of_mem _ (List.mem_append_left _ hy)
    have hkeeps : ∀ version, stored.Current ns new → version ∉ stored.given →
        op.Keeps ns name (⟨.call (.getCluster ns name), .ok (some latest)⟩ :: (asides ++ [x]))
          ⟨stored, stored.store new version⟩ := fun version hcurrent hfresh ↦
      keeps_of_current (hlater.trans hmore) (hread latest rfl) (changes.mono hsub) hcurrent hfresh
    cases hanswer with
    | read => cases asks
    | aside nothing =>
      rw [Exchange.replacement?_of_call? nothing] at asks
      cases asks
    | accepted version asks' current fresh =>
      cases asks.symm.trans asks'
      exact .inr ⟨_, rfl, hkeeps version current fresh, fun e he ↦ by cases he⟩
    | outdated refusal asks' outdated code =>
      cases asks.symm.trans asks'
      exact .inl ⟨rfl, fun hr ↦ by cases hr⟩
    | failed call e fails =>
      obtain rfl := Exchange.reply_of_replacement? asks
      exact .inl ⟨rfl, fun hr ↦ by cases hr⟩
    | unheard version e asks' current fresh fails =>
      cases asks.symm.trans asks'
      refine .inr ⟨_, rfl, hkeeps version current fresh, fun e' he ↦ ?_⟩
      cases he
      exact fails

theorem Keeps.mono {w : Accepted} (h : op.Keeps ns name es w) (hsub : es ⊆ fs) : op.Keeps ns name fs w := by
  obtain ⟨old, new, version, hbefore, hchanges, hfresh, hafter, hothers⟩ := h
  exact ⟨old, new, version, hbefore, hchanges.mono hsub, hfresh, hafter, hothers⟩

/-- Attempts that lost had nothing accepted. -/
theorem lost_eq_nil {p : Pass σ Unit} (h : Lost p m es m') (hs : History s es ws u)
    (hattempt : ∀ m es r m', p.Runs m es r m' → op.Attempt ns name es r) : ws = [] := by
  induction h generalizing s ws with
  | none m => exact (hs.of_calls_eq_nil rfl).1
  | next past attempt conflict rest ih =>
    obtain ⟨t, ws₁, ws₂, hfirst, hsecond, rfl⟩ := hs.append
    rcases (hattempt _ _ _ _ attempt).outcome hfirst with ⟨rfl, -⟩ | ⟨w, -, -, hno⟩
    · obtain ⟨before, w, after, ws', -, hanswer, hrest, rfl⟩ := hsecond.cons
      rw [ih hrest]
      cases hanswer with
      | aside => rfl
      | accepted version asks | outdated refusal asks | unheard version e asks => cases asks
    · exact absurd conflict (hno _ rfl)

/-- A write that is tried again after conflicts has no more accepted than its last attempt. -/
theorem outcome_of_retry {settings : Settings} {p : Pass σ Unit}
    (h : (retryOnConflict settings.writeAttempts p).Runs m es r m') (hs : History s es ws u)
    (hattempt : ∀ m es r m', p.Runs m es r m' → op.Attempt ns name es r) :
    ws.length ≤ 1 ∧ (∀ w ∈ ws, op.Keeps ns name es w) ∧ (r = .ok () → ws = [] → op.Unneeded ns name es) := by
  obtain ⟨lost, last, m₁, rfl, hlost, hlast⟩ := Runs.retryOnConflict h
  obtain ⟨t, ws₁, ws₂, hfirst, hsecond, rfl⟩ := hs.append
  obtain rfl : ws₁ = [] := lost_eq_nil hlost hfirst hattempt
  rw [List.nil_append]
  rcases (hattempt _ _ _ _ hlast).outcome hsecond with ⟨rfl, hok⟩ | ⟨w, rfl, hkeeps, -⟩
  · refine ⟨Nat.zero_le 1, List.forall_mem_nil _, fun hr _ ↦ ?_⟩
    obtain ⟨before, latest, asides, rfl, hnoCalls, hnothing⟩ := hok hr
    exact ⟨lost ++ before, latest, asides, (List.append_assoc ..).symm, hnoCalls, hnothing⟩
  · refine ⟨Nat.le_refl 1, ?_, fun _ hnil ↦ by cases hnil⟩
    intro w' hw'
    rw [List.mem_singleton.1 hw']
    exact hkeeps.mono (List.subset_append_right lost last)

theorem changes_mark {time : String} (h : Volume.markStarted time old = some new) :
    (mark ns name time).Changes es old new := by
  cases h
  refine ⟨(old.metadata.annotations.getD .empty).insert resizeAnnotation time, rfl, ?_, ?_⟩
  · rw [Dict.get?_insert, if_pos rfl]
  · intro key hkey
    rw [Dict.get?_insert, if_neg hkey]

theorem changes_unmark (h : Volume.markEnded old = some new) : (unmark ns name).Changes es old new := by
  rw [Volume.markEnded] at h
  split at h
  · cases h
    refine ⟨(old.metadata.annotations.getD .empty).erase resizeAnnotation, rfl, ?_, ?_⟩
    · rw [Dict.get?_erase, if_pos rfl]
    · intro key hkey
      rw [Dict.get?_erase, if_neg hkey]
  · cases h

theorem needless_unmark (h : Volume.markEnded latest = none) : (unmark ns name).Needless es latest := by
  rw [Volume.markEnded] at h
  split at h
  · cases h
  · next hmark => exact Option.not_isSome_iff_eq_none.1 hmark

theorem changes_storage {quantity : String} (h : Volume.setStorage quantity old = some new) :
    (storage ns name quantity).Changes es old new := by
  rw [Volume.setStorage] at h
  split at h <;> cases h
  rfl

theorem needless_storage {quantity : String} (h : Volume.setStorage quantity latest = none) :
    (storage ns name quantity).Needless es latest := by
  rw [Volume.setStorage] at h
  split at h
  · next hsame => exact hsame
  · cases h

/-- What writing a status ends with: a conflict that stays is told as an error of its own. -/
def worded : Except Failure Unit → Except Failure Unit
  | .error (.error e) => .error (.error (if e.isConflict then .statusWrite e.message else e))
  | .error (.overflow o) => .error (.overflow o)
  | .ok () => .ok ()

theorem worded_eq_ok : worded r = .ok () ↔ r = .ok () := by
  rcases r with (_ | _) | _ <;> simp [worded]

theorem worded_eq_overflow {o : Overflow} : worded r = .error (.overflow o) ↔ r = .error (.overflow o) := by
  rcases r with (_ | _) | _ <;> simp [worded]

/-- Writing a status is an attempt that is tried again after conflicts. -/
theorem runs_write {settings : Settings} {u : StatusUpdate} {c : Cluster} (h : (u.write settings c).Runs m es r m')
    (hns : c.metadata.ns? = some ns) :
    ∃ r', (retryOnConflict settings.writeAttempts (u.writeOnce ns c.name)).Runs m es r' m' ∧ r = worded r' := by
  simp only [StatusUpdate.write, hns] at h
  rcases runs_bind.1 h with ⟨es₁, es₂, result, m₁, rfl, hattempt, hrest⟩ | ⟨e, rfl, hattempt⟩
  · rcases runs_attempt.1 hattempt with ⟨a, hr, hrun⟩ | ⟨e, hr, hrun⟩ | ⟨o, hr, hrun⟩ <;> cases hr
    · obtain ⟨rfl, rfl, rfl⟩ := runs_pure.1 hrest
      rw [List.append_nil]
      exact ⟨_, hrun, rfl⟩
    · have hfails : es₂ = [] ∧ r = worded (.error (.error e)) ∧ m' = m₁ := by
        simp only at hrest
        simp only [worded]
        cases hconflict : e.isConflict <;> simp only [hconflict] at hrest <;> exact runs_fail.1 hrest
      obtain ⟨rfl, rfl, rfl⟩ := hfails
      rw [List.append_nil]
      exact ⟨_, hrun, rfl⟩
  · rcases runs_attempt.1 hattempt with ⟨a, hr, hrun⟩ | ⟨e', hr, hrun⟩ | ⟨o, hr, hrun⟩ <;> cases hr
    exact ⟨_, hrun, rfl⟩

/-- Every write is an attempt that is tried again after conflicts, except that a cluster without a namespace has no
status to write. -/
theorem runs_pass {settings : Settings} (h : (op.pass settings).Runs m es r m') :
    (es = [] ∧ r ≠ .ok ()) ∨
      ∃ (ns name : String) (p : Pass σ Unit) (r' : Except Failure Unit), op.target? = some (ns, name) ∧
        (retryOnConflict settings.writeAttempts p).Runs m es r' m' ∧ (r = .ok () → r' = .ok ()) ∧
        ∀ m es r m', p.Runs m es r m' → op.Attempt ns name es r := by
  cases op with
  | status u c =>
    cases hns : c.metadata.ns? with
    | none =>
      simp only [pass, StatusUpdate.write, hns] at h
      obtain ⟨rfl, rfl, rfl⟩ := runs_fail.1 h
      exact .inl ⟨rfl, fun hr ↦ by cases hr⟩
    | some ns =>
      have htarget : (status u c).target? = some (ns, c.name) := by rw [target?, hns, Option.map_some]
      obtain ⟨r', hrun, rfl⟩ := runs_write h hns
      exact .inr ⟨ns, c.name, _, r', htarget, hrun, worded_eq_ok.1, fun m es r m' hrun ↦ attempt_writeOnce hrun⟩
  | mark ns name time =>
    refine .inr ⟨ns, name, _, r, rfl, h, id, fun m es r m' hrun ↦ attempt_changeClusterOnce hrun ?_ ?_⟩
    · exact fun latest new hchange ↦ changes_mark hchange
    · exact fun latest hchange ↦ by cases hchange
  | unmark ns name =>
    refine .inr ⟨ns, name, _, r, rfl, h, id, fun m es r m' hrun ↦ attempt_changeClusterOnce hrun ?_ ?_⟩
    · exact fun latest new hchange ↦ changes_unmark hchange
    · exact fun latest hchange ↦ needless_unmark hchange
  | storage ns name quantity =>
    refine .inr ⟨ns, name, _, r, rfl, h, id, fun m es r m' hrun ↦ attempt_changeClusterOnce hrun ?_ ?_⟩
    · exact fun latest new hchange ↦ changes_storage hchange
    · exact fun latest hchange ↦ needless_storage hchange

/-- Whatever others write in between, no update of a cluster is lost. At most one write is accepted, and it turns the
cluster that was stored just before into the one with only its own part changed; and a write that ends well without one
has found the cluster as it would leave it. -/
theorem no_lost_update {settings : Settings} (h : (op.pass settings).Runs m es r m') (hs : History s es ws u) :
    ws.length ≤ 1 ∧
      (∀ w ∈ ws, ∃ ns name, op.target? = some (ns, name) ∧ op.Keeps ns name es w) ∧
      (r = .ok () → ws = [] → ∃ ns name, op.target? = some (ns, name) ∧ op.Unneeded ns name es) := by
  rcases runs_pass h with ⟨rfl, hr⟩ | ⟨ns, name, p, r', htarget, hrun, hok, hattempt⟩
  · obtain ⟨rfl, -⟩ := hs.of_calls_eq_nil rfl
    exact ⟨Nat.zero_le 1, List.forall_mem_nil _, fun hok ↦ absurd hok hr⟩
  · obtain ⟨hlength, hkeeps, hunneeded⟩ := outcome_of_retry hrun hs hattempt
    refine ⟨hlength, ?_, ?_⟩
    · intro w hw
      exact ⟨ns, name, htarget, hkeeps w hw⟩
    · intro hr hnil
      exact ⟨ns, name, htarget, hunneeded (hok hr) hnil⟩

/-- A cluster that is served by an operator, as it is stored first. -/
private def shared : Cluster where
  metadata := { Kube.ObjectMeta.empty with name := some "db", ns? := some "prod", resourceVersion := some "1" }
  spec := ⟨⟨3, "image", true, ⟨none, "2Gi"⟩⟩, none, none, false, none⟩
  status := none

/-- The cluster after its owner has paused it. -/
private def sharedPaused : Cluster := { shared with spec.paused := true }

/-- A server that holds the cluster. -/
private def sharedServer : VersionedServer where
  clusters := [shared]
  given := ["1"]
  versioned := by
    intro c hc
    rw [List.mem_singleton.1 hc]
    exact ⟨"1", List.mem_singleton_self _, rfl⟩

/-- The refusal of an outdated write. -/
private def outdatedWrite : Refusal := ⟨"Failure", "the object has been modified", "Conflict", 409⟩

/-- What is exchanged when the owner pauses the cluster just before its storage is set. -/
private def sharedExchanges : List Exchange :=
  [⟨.call (.getCluster "prod" "db"), .ok (some shared)⟩,
    ⟨.call (.replaceCluster "prod" (shared.withStorage "1Gi")), .error (.call (.refused outdatedWrite))⟩,
    ⟨.wait (.conflict 0), ()⟩,
    ⟨.call (.getCluster "prod" "db"), .ok (some (sharedPaused.withVersion "2"))⟩,
    ⟨.call (.replaceCluster "prod" ((sharedPaused.withVersion "2").withStorage "1Gi")),
      .ok (((sharedPaused.withVersion "2").withStorage "1Gi").withVersion "3")⟩]

/-- The first write is refused and the second one accepted, and the cluster stays paused. -/
theorem no_lost_update_paused : ∃ before after,
    ((storage "prod" "db" "1Gi").pass .standard : Pass Unit Unit).Runs () sharedExchanges (.ok ()) () ∧
      sharedServer.History sharedExchanges [⟨before, after⟩] after ∧
      (storage "prod" "db" "1Gi").Keeps "prod" "db" sharedExchanges ⟨before, after⟩ := by
  have hrun : ((storage "prod" "db" "1Gi").pass .standard : Pass Unit Unit).Runs () sharedExchanges (.ok ()) () := by
    exact .ask _ (.ask _ (.ask _ (.ask _ (.ask _ (.done _)))))
  let paused := sharedServer.store sharedPaused "2"
  let set := paused.store ((sharedPaused.withVersion "2").withStorage "1Gi") "3"
  have hcurrent : paused.Current "prod" ((sharedPaused.withVersion "2").withStorage "1Gi") :=
    ⟨sharedPaused.withVersion "2", rfl, rfl⟩
  have hhistory : sharedServer.History sharedExchanges [⟨paused, set⟩] set := by
    refine .exchange (.read "prod" "db") (.elsewhere (.stored sharedPaused "2" (by decide)) ?_)
    refine .exchange (.outdated outdatedWrite rfl ?_ rfl) (.exchange (.aside rfl) (.exchange (.read "prod" "db") ?_))
    · rintro ⟨stored, hstored, hversion⟩
      cases hstored
      exact absurd hversion (by decide)
    · exact .exchange (.accepted "3" rfl hcurrent (by decide)) (.done set)
  obtain ⟨-, hkeeps, -⟩ := no_lost_update hrun hhistory
  obtain ⟨ns, name, htarget, hkept⟩ := hkeeps ⟨paused, set⟩ (List.mem_singleton_self _)
  cases htarget
  exact ⟨paused, set, hrun, hhistory, hkept⟩

end ClusterWrite

end GaleraOperator
