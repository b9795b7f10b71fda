import GaleraOperator.Proofs.Control.Containment

/-!
# Which failures the status tells of

A pass that fails writes its error down, unless the status is in the state of an error already. So of passes that fail
in a row only the first is told, however different the errors of the others are: it stays told until a pass ends well.
-/

namespace GaleraOperator

open Pass

variable {settings : Settings} {ns name : String} {c : Cluster} {m m' : Memory} {es fs : List Exchange}
  {s t u : Store} {before after first : ClusterStatus} {update : StatusUpdate} {e : Error}

namespace Store

/-- The status that is stored of a cluster. A cluster that has none is in the one that it begins with. -/
def status? (s : Store) (ns name : String) : Option ClusterStatus :=
  (s.clusters.find? ns name).map fun c ↦ c.status.getD .initial

theorem SameView.status?_eq (h : s.SameView (·.status) t) (ns name : String) :
    t.status? ns name = s.status? ns name := by
  have hstatus := congrArg (Option.map (·.getD ClusterStatus.initial)) (h ns name)
  rwa [Option.map_map, Option.map_map] at hstatus

end Store

/-- The last exchange that asks something of the server. -/
def lastCall? (es : List Exchange) : Option Exchange := (es.filter (·.call?.isSome)).getLast?

theorem lastCall?_append : lastCall? (es ++ fs) = (lastCall? fs).or (lastCall? es) := by
  simp [lastCall?]

theorem lastCall?_of_calls_eq_nil (h : calls es = []) : lastCall? es = none := by
  rw [lastCall?, List.filter_eq_nil_iff.2, List.getLast?_nil]
  intro x hx
  rw [List.filterMap_eq_nil_iff.1 h x hx]
  exact Bool.false_ne_true

theorem lastCall?_singleton {x : Exchange} (h : x.call?.isSome) : lastCall? [x] = some x := by
  rw [lastCall?, List.filter_cons, if_pos h]
  rfl

/-- An exchange that ends a write of the status well: the write is accepted, or the cluster is read, and as that is the
end there was nothing to write. -/
def EndsWrite (ns name : String) (x : Exchange) : Prop :=
  (∃ held, x = ⟨.call (.getCluster ns name), .ok (some held)⟩) ∨
    ∃ new stored, x = ⟨.call (.replaceClusterStatus ns new), .ok stored⟩

/-- The write of the status at the end of a pass was accepted, or found to be unnecessary. -/
def StatusWritten (ns name : String) (es : List Exchange) : Prop := ∃ x, lastCall? es = some x ∧ EndsWrite ns name x

namespace ClusterWrite

variable {σ : Type} {n n' : σ} {op : ClusterWrite} {r : Except Failure Unit}

/-- An attempt at a write asks something of the server, and if that ends well, so does the attempt. -/
theorem Attempt.lastCall (h : op.Attempt ns name es r) :
    ∃ x, lastCall? es = some x ∧ (EndsWrite ns name x → r = .ok ()) := by
  cases h with
  | unread | missing =>
    refine ⟨_, rfl, ?_⟩
    rintro (⟨_, hx⟩ | ⟨_, _, hx⟩) <;> cases hx
  | needless noCalls nothing =>
    rw [← List.singleton_append, lastCall?_append, lastCall?_of_calls_eq_nil noCalls]
    exact ⟨_, rfl, fun _ ↦ rfl⟩
  | @sent latest new x asides reply noCalls changes asks =>
    have hcall : x.call?.isSome := by
      rw [← Option.ne_none_iff_isSome]
      intro hnone
      rw [Exchange.replacement?_of_call? hnone] at asks
      cases asks
    rw [← List.cons_append, lastCall?_append, lastCall?_singleton hcall]
    refine ⟨x, rfl, ?_⟩
    rintro (⟨_, rfl⟩ | ⟨_, _, rfl⟩) <;> cases asks
    rfl

/-- What was changed of a cluster was stored before. -/
theorem Changed.exists_before {held : Cluster} (h : op.Changed ns name s t)
    (hheld : t.clusters.find? ns name = some held) : ∃ before, s.clusters.find? ns name = some before := by
  cases h with
  | none => exact ⟨held, hheld⟩
  | change stored => exact ⟨_, stored⟩

end ClusterWrite

section Writing

variable {σ : Type} {n n' : σ} {r : Except Failure Unit}

/-- How writing a status ends is up to its last attempt. -/
theorem StatusUpdate.lastAttempt (h : (update.write settings c).Runs n es r n') (hns : c.metadata.ns? = some ns) :
    ∃ lost last r', es = lost ++ last ∧ r = ClusterWrite.worded r' ∧
      (ClusterWrite.status update c).Attempt ns c.name last r' := by
  obtain ⟨r', hrun, rfl⟩ := ClusterWrite.runs_write h hns
  obtain ⟨lost, last, m₁, rfl, -, hlast⟩ := Runs.retryOnConflict hrun
  exact ⟨lost, last, r', rfl, rfl, ClusterWrite.attempt_writeOnce hlast⟩

/-- Writing a status ends well if its last call does. -/
theorem StatusUpdate.write_eq_ok (h : (update.write settings c).Runs n es r n') (hns : c.metadata.ns? = some ns)
    (hwritten : StatusWritten ns c.name (fs ++ es)) : r = .ok () := by
  obtain ⟨lost, last, r', rfl, rfl, hattempt⟩ := StatusUpdate.lastAttempt h hns
  obtain ⟨x, hx, hok⟩ := hattempt.lastCall
  obtain ⟨y, hy, hends⟩ := hwritten
  rw [← List.append_assoc, lastCall?_append, hx, Option.some_or] at hy
  cases hy
  exact ClusterWrite.worded_eq_ok.2 (hok hends)

/-- Writing a status is not stopped by arithmetic. -/
theorem StatusUpdate.write_ne_overflow {o : Overflow} (h : (update.write settings c).Runs n es r n')
    (hns : c.metadata.ns? = some ns) : r ≠ .error (.overflow o) := by
  obtain ⟨lost, last, r', rfl, rfl, hattempt⟩ := StatusUpdate.lastAttempt h hns
  rw [ne_eq, ClusterWrite.worded_eq_overflow]
  cases hattempt with
  | unread | missing | needless => nofun
  | sent asides reply => cases reply <;> nofun

/-- Where a status could be written, the cluster was stored. -/
theorem StatusUpdate.exists_status_of_write (h : (update.write settings c).Runs n es (.ok ()) n')
    (hs : s.MayGive es t) (hns : c.metadata.ns? = some ns) : ∃ before, s.status? ns c.name = some before := by
  have hpass : ((ClusterWrite.status update c).pass settings).Runs n es (.ok ()) n' := h
  rcases ClusterWrite.changed_of_pass hpass hs with ⟨-, hr⟩ | ⟨ns', name', htarget, hchanged, hsettled⟩
  · exact absurd rfl hr
  · rw [ClusterWrite.target?, hns, Option.map_some] at htarget
    cases htarget
    obtain ⟨_, held, hheld, -⟩ := hsettled rfl
    obtain ⟨old, hold⟩ := hchanged.exists_before hheld
    exact ⟨_, Option.map_eq_some_iff.2 ⟨old, hold, rfl⟩⟩

/-- Writing a status keeps what the update keeps, and if it ends well, the status is as the update makes such ones. -/
theorem StatusUpdate.status_of_write {I J : ClusterStatus → Prop} (h : (update.write settings c).Runs n es r n')
    (hs : s.MayGive es t) (hns : c.metadata.ns? = some ns) (hbefore : s.status? ns c.name = some before)
    (hI : I before) (happly : ∀ time status, I status → I (update.apply time status) ∧ J (update.apply time status)) :
    ∃ after, t.status? ns c.name = some after ∧ I after ∧ (r = .ok () → J after) := by
  obtain ⟨held, hheld, rfl⟩ := Option.map_eq_some_iff.1 hbefore
  obtain ⟨r', hrun, rfl⟩ := ClusterWrite.runs_write h hns
  have hattempt : ∀ m es r m', (update.writeOnce ns c.name : Pass σ Unit).Runs m es r m' →
      (ClusterWrite.status update c).Attempt ns c.name es r := fun m es r m' hrun ↦ ClusterWrite.attempt_writeOnce hrun
  have hchanges : ∀ es old new, (ClusterWrite.status update c).Changes es old new →
      I (old.status.getD .initial) → I (new.status.getD .initial) ∧ J (new.status.getD .initial) := by
    rintro es old new ⟨time, -, rfl⟩ hold
    exact happly time _ hold
  have hneedless : ∀ es latest, (ClusterWrite.status update c).Needless es latest →
      I (latest.status.getD .initial) → J (latest.status.getD .initial) := by
    rintro es latest ⟨time, status, -, hstatus, hsame⟩ hlatest
    rw [hstatus, Option.getD_some] at hlatest ⊢
    have hJ := (happly time _ hlatest).2
    rwa [hsame] at hJ
  obtain ⟨stored, hstored, hIstored, hend⟩ := ClusterWrite.stored_of_retry hrun hs hattempt hheld hI hchanges hneedless
  refine ⟨_, Option.map_eq_some_iff.2 ⟨stored, hstored, rfl⟩, hIstored, fun hr ↦ ?_⟩
  rcases hend with ⟨-, hJ⟩ | ⟨_, _, -, hr'⟩
  · exact hJ
  · rw [hr'] at hr
    cases ClusterWrite.worded_eq_ok.1 hr

end Writing

/-- The steps of a pass that go well do not come to the state of an error. -/
theorem state_of_runSteps {key : String} (h : (runSteps settings key c).Runs m es (.ok update) m')
    (hns : c.metadata.ns? = some ns) : update.state ≠ .error := by
  obtain ⟨es₁, es₂, _, _, ⟨seen, pods⟩, _, _, m₁, m₂, _, rfl, hsee, hrecover, -, -⟩ := runs_runSteps_ok h
  obtain ⟨-, time, answers, rfl, -⟩ := (runs_aggregate_ok hns).1 hsee
  obtain ⟨o, rfl, hstate⟩ := state_of_aggregation hns hsee
  have hseen : o.state ≠ .error := by
    rw [hstate, reportedState]
    split_ifs <;> decide
  obtain ⟨-, recovered, -, ⟨_, _, _, hr⟩ | ⟨-, ⟨_, _, hr⟩ | ⟨_, _, hr⟩⟩⟩ :=
    runs_recoverStep hrecover (fun _ hr ↦ by cases hr) <;>
    cases hr <;> exact hseen

/-- What a pass may make of the status of its cluster. Only one that does not end well leaves it as it was or writes its
error down; otherwise the status is not in the state of an error afterwards. -/
inductive StatusAfter (before : ClusterStatus) : Except Failure Requeue → ClusterStatus → Prop where
  | kept {r : Except Failure Requeue} (unwell : ∀ delay, r ≠ .ok (.after delay)) : StatusAfter before r before
  | told (e : Error) (time : Instant) :
      StatusAfter before (.error (.error e)) ((StatusUpdate.failed e.message).apply time before)
  | seen {r : Except Failure Requeue} {after : ClusterStatus} (unfailed : after.state ≠ .error) :
      StatusAfter before r after

/-- Writing down a failure. -/
theorem status_of_writeFailed {r : Except Failure Unit}
    (h : ((StatusUpdate.failed e.message).write settings c).Runs m es r m') (hs : s.MayGive es t)
    (hns : c.metadata.ns? = some ns) (hbefore : s.status? ns c.name = some before) :
    ∃ after, t.status? ns c.name = some after ∧
      (after = before ∨ ∃ time, after = (StatusUpdate.failed e.message).apply time before) ∧
      (r = .ok () → ∃ time, after = (StatusUpdate.failed e.message).apply time before) := by
  refine StatusUpdate.status_of_write h hs hns hbefore (.inl rfl) fun time status hstatus ↦ ?_
  suffices htold : ∃ time', (StatusUpdate.failed e.message).apply time status =
      (StatusUpdate.failed e.message).apply time' before from ⟨.inr htold, htold⟩
  rcases hstatus with rfl | ⟨time', rfl⟩
  · exact ⟨time, rfl⟩
  · exact ⟨time', StatusUpdate.apply_failed_of_error time (StatusUpdate.state_apply ..)⟩

/-- Writing down what a pass has seen. -/
theorem status_of_writeSeen {r : Except Failure Unit} (h : (update.write settings c).Runs m es r m')
    (hs : s.MayGive es t) (hns : c.metadata.ns? = some ns) (hbefore : s.status? ns c.name = some before)
    (hseen : update.state ≠ .error) :
    ∃ after, t.status? ns c.name = some after ∧ (after = before ∨ after.state ≠ .error) ∧
      (r = .ok () → after.state ≠ .error) := by
  refine StatusUpdate.status_of_write h hs hns hbefore (.inl rfl) fun time status _ ↦ ?_
  have hstate : (update.apply time status).state ≠ .error := by rwa [StatusUpdate.state_apply]
  exact ⟨.inr hstate, hstate⟩

/-- How a pass may go: over a cluster that is being deleted, or by its steps and what is written down after them. -/
inductive Goes (settings : Settings) (ns : String) (c : Cluster) (m : Memory) :
    List Exchange → Except Failure Requeue → Prop where
  | deleted : Goes settings ns c m [] (.ok .onChange)
  | overflowed {es : List Exchange} {o : Overflow} {m₁ : Memory}
      (steps : (runSteps settings (clusterKey ns c.name) c).Runs m es (.error (.overflow o)) m₁) :
      Goes settings ns c m es (.error (.overflow o))
  | failed {es fs : List Exchange} {e : Error} {written : Except Failure Unit} {m₁ m₂ : Memory}
      (steps : (runSteps settings (clusterKey ns c.name) c).Runs m es (.error (.error e)) m₁)
      (write : ((StatusUpdate.failed e.message).write settings c).Runs m₁ fs written m₂) :
      Goes settings ns c m (es ++ fs) (.error (.error e))
  | unwritten {es fs : List Exchange} {update : StatusUpdate} {f : Failure} {m₁ m₂ : Memory}
      (steps : (runSteps settings (clusterKey ns c.name) c).Runs m es (.ok update) m₁)
      (write : (update.write settings c).Runs m₁ fs (.error f) m₂) : Goes settings ns c m (es ++ fs) (.error f)
  | well {es fs rest : List Exchange} {update : StatusUpdate} {m₁ m₂ : Memory}
      (steps : (runSteps settings (clusterKey ns c.name) c).Runs m es (.ok update) m₁)
      (write : (update.write settings c).Runs m₁ fs (.ok ()) m₂) (quiet : calls rest = []) :
      Goes settings ns c m (es ++ (fs ++ rest)) (.ok (.after settings.interval))

theorem goes_of_runs {r : Except Failure Requeue} (h : (reconcile settings c).Runs m es r m')
    (hns : c.metadata.ns? = some ns) : Goes settings ns c m es r := by
  by_cases hlive : c.metadata.deletionTimestamp.isSome = true
  · rw [reconcile_deleted hns hlive] at h
    have hforget := runs_modify_bind.1 h
    obtain ⟨rfl, rfl, -⟩ := runs_pure.1 hforget
    exact .deleted
  rw [reconcile_live hns (Bool.eq_false_iff.2 hlive)] at h
  rcases runs_bind.1 h with ⟨steps, _, result, m₁, rfl, hattempt, hrest⟩ | ⟨f, rfl, hattempt⟩
  · rcases runs_attempt.1 hattempt with ⟨update, hr, hsteps⟩ | ⟨e, hr, hsteps⟩ | ⟨o, hr, -⟩ <;> cases hr
    · rcases runs_bind.1 hrest with ⟨writing, _, _, m₂, rfl, hwrite, hafter⟩ | ⟨f, rfl, hwrite⟩
      · rcases runs_bind.1 (runs_modify_bind.1 hafter) with
          ⟨reporting, _, _, m₃, rfl, hreport, hend⟩ | ⟨f, rfl, hreport⟩
        · obtain ⟨rfl, rfl, rfl⟩ := runs_pure.1 hend
          refine .well hsteps hwrite ?_
          rw [List.append_nil]
          exact List.eq_nil_iff_forall_not_mem.2 (asks_reportPass _ _ _ _ _ _ hreport)
        · cases ok_of_reportPass hreport
      · exact .unwritten hsteps hwrite
    · rcases runs_bind.1 hrest with ⟨writing, _, _, m₂, rfl, hattempt, hfail⟩ | ⟨f, rfl, hattempt⟩
      · obtain ⟨rfl, rfl, rfl⟩ := runs_fail.1 hfail
        rw [List.append_nil]
        rcases runs_attempt.1 hattempt with ⟨_, -, hwrite⟩ | ⟨_, -, hwrite⟩ | ⟨_, -, hwrite⟩ <;>
          exact .failed hsteps hwrite
      · rcases runs_attempt.1 hattempt with ⟨_, hr, -⟩ | ⟨_, hr, -⟩ | ⟨o, -, hwrite⟩
        · cases hr
        · cases hr
        · exact absurd rfl (StatusUpdate.write_ne_overflow hwrite hns)
  · rcases runs_attempt.1 hattempt with ⟨_, hr, -⟩ | ⟨_, hr, -⟩ | ⟨o, hr, hsteps⟩ <;> cases hr
    exact .overflowed hsteps

/-- The steps of a pass leave the status of its cluster to what follows them. -/
theorem status_of_runSteps {key : String} {r : Except Failure StatusUpdate}
    (h : (runSteps settings key c).Runs m es r m') (hs : s.MayGive es t) (hns : c.metadata.ns? = some ns) :
    t.status? ns c.name = s.status? ns c.name :=
  ((WritesNoStatus.runSteps key hns _ _ _ _ h).sameView (fun _ hop ↦ hop.keepsView) hs).status?_eq ns c.name

/-- What a pass makes of the status of its cluster. -/
theorem statusAfter_of_runs {r : Except Failure Requeue} (h : (reconcile settings c).Runs m es r m')
    (hs : s.MayGive es t) (hns : c.metadata.ns? = some ns) (hbefore : s.status? ns c.name = some before) :
    ∃ after, t.status? ns c.name = some after ∧ StatusAfter before r after := by
  cases goes_of_runs h hns with
  | deleted =>
    obtain rfl : t = s := hs
    exact ⟨before, hbefore, .kept nofun⟩
  | overflowed steps => exact ⟨before, (status_of_runSteps steps hs hns).trans hbefore, .kept nofun⟩
  | @failed _ _ e _ _ _ steps write =>
    obtain ⟨u, hs₁, hs₂⟩ := Store.mayGive_append.1 hs
    have hsame := (status_of_runSteps steps hs₁ hns).trans hbefore
    obtain ⟨after, hafter, rfl | ⟨time, rfl⟩, -⟩ := status_of_writeFailed write hs₂ hns hsame
    · exact ⟨after, hafter, .kept nofun⟩
    · exact ⟨_, hafter, .told e time⟩
  | unwritten steps write =>
    obtain ⟨u, hs₁, hs₂⟩ := Store.mayGive_append.1 hs
    have hsame := (status_of_runSteps steps hs₁ hns).trans hbefore
    obtain ⟨after, hafter, rfl | hseen, -⟩ := status_of_writeSeen write hs₂ hns hsame (state_of_runSteps steps hns)
    · exact ⟨after, hafter, .kept nofun⟩
    · exact ⟨after, hafter, .seen hseen⟩
  | well steps write quiet =>
    obtain ⟨u, hs₁, hs₂⟩ := Store.mayGive_append.1 hs
    obtain ⟨v, hs₂, hs₃⟩ := Store.mayGive_append.1 hs₂
    obtain rfl := hs₃.eq_of_calls_eq_nil quiet
    have hsame := (status_of_runSteps steps hs₁ hns).trans hbefore
    obtain ⟨after, hafter, -, hseen⟩ := status_of_writeSeen write hs₂ hns hsame (state_of_runSteps steps hns)
    exact ⟨after, hafter, .seen (hseen rfl)⟩

/-- A pass that fails, and writes that down or need not, has found the cluster and leaves its error in the status, unless
the status tells of one already. -/
theorem status_of_failed (h : (reconcile settings c).Runs m es (.error (.error e)) m') (hs : s.MayGive es t)
    (hns : c.metadata.ns? = some ns) (hwritten : StatusWritten ns c.name es) :
    ∃ before time, s.status? ns c.name = some before ∧
      t.status? ns c.name = some ((StatusUpdate.failed e.message).apply time before) := by
  generalize hr : (.error (.error e) : Except Failure Requeue) = r at h
  cases goes_of_runs h hns with
  | deleted | overflowed | well => cases hr
  | failed steps write =>
    cases hr
    obtain ⟨u, hs₁, hs₂⟩ := Store.mayGive_append.1 hs
    obtain rfl := StatusUpdate.write_eq_ok write hns hwritten
    obtain ⟨before, hbefore⟩ := StatusUpdate.exists_status_of_write write hs₂ hns
    obtain ⟨after, hafter, -, htold⟩ := status_of_writeFailed write hs₂ hns hbefore
    obtain ⟨time, rfl⟩ := htold rfl
    exact ⟨before, time, (status_of_runSteps steps hs₁ hns).symm.trans hbefore, hafter⟩
  | unwritten steps write => cases StatusUpdate.write_eq_ok write hns hwritten

/-- Passes over a cluster at a server that may fail, one after the other, and what each of them came to. In between
others may do anything to what is stored but to the status of the cluster. -/
inductive PassesOver (settings : Settings) (ns name : String) (s : Store) :
    List (Except Failure Requeue) → Store → Prop where
  | none : PassesOver settings ns name s [] s
  | others {rs : List (Except Failure Requeue)} {t u : Store} (before : PassesOver settings ns name s rs t)
      (same : u.status? ns name = t.status? ns name) : PassesOver settings ns name s rs u
  | pass {rs : List (Except Failure Requeue)} {t u : Store} {c : Cluster} {m m' : Memory} {es : List Exchange}
      {r : Except Failure Requeue} (before : PassesOver settings ns name s rs t)
      (place : c.metadata.ns? = some ns ∧ c.name = name) (run : (reconcile settings c).Runs m es r m')
      (answered : t.MayGive es u) : PassesOver settings ns name s (rs ++ [r]) u

/-- The messages of a status tell of the error of a pass after which none has ended well. -/
def TellsEarlier (rs : List (Except Failure Requeue)) (status : ClusterStatus) : Prop :=
  ∃ earlier e later, rs = earlier ++ .error (.error e) :: later ∧ (∀ delay, .ok (.after delay) ∉ later) ∧
    StatusUpdate.errorMessage e.message ∈ status.messages

theorem TellsEarlier.concat {rs : List (Except Failure Requeue)} {r : Except Failure Requeue}
    (h : TellsEarlier rs after) (hr : ∀ delay, r ≠ .ok (.after delay)) : TellsEarlier (rs ++ [r]) after := by
  obtain ⟨earlier, e, later, rfl, hlater, htold⟩ := h
  refine ⟨earlier, e, later ++ [r], by simp, fun delay hmem ↦ ?_, htold⟩
  rcases List.mem_append.1 hmem with hmem | hmem
  · exact hlater delay hmem
  · exact hr delay (List.mem_singleton.1 hmem).symm

/-- A status that has come into the state of an error tells of the pass that brought it there. -/
theorem tellsEarlier_of_passes {rs : List (Except Failure Requeue)} (h : PassesOver settings ns name s rs t)
    (hfirst : s.status? ns name = some first) (hwell : first.state ≠ .error) :
    ∃ after, t.status? ns name = some after ∧ (after.state = .error → TellsEarlier rs after) := by
  induction h with
  | none => exact ⟨first, hfirst, fun hstate ↦ absurd hstate hwell⟩
  | others before same ih =>
    rw [same]
    exact ih
  | pass before place run answered ih =>
    obtain ⟨hns, rfl⟩ := place
    obtain ⟨known, hknown, htells⟩ := ih
    obtain ⟨after, hafter, hstep⟩ := statusAfter_of_runs run answered hns hknown
    refine ⟨after, hafter, fun hstate ↦ ?_⟩
    cases hstep with
    | kept unwell => exact (htells hstate).concat unwell
    | told e time =>
      by_cases hknown : known.state = .error
      · rw [StatusUpdate.apply_failed_of_error time hknown]
        exact (htells hknown).concat nofun
      · refine ⟨_, e, [], rfl, fun _ ↦ List.not_mem_nil, ?_⟩
        rw [StatusUpdate.messages_apply_failed time hknown]
        exact List.mem_append_right _ (List.mem_singleton_self _)
    | seen unfailed => exact absurd hstate unfailed

/-- Every pass that fails, and writes that down or need not, leaves the status in the state of an error. Its own error is
added to the messages unless the status was in that state already: then it stays as it was, and tells of the pass that
brought it there and after which none has ended well. -/
theorem told_of_failed {rs : List (Except Failure Requeue)} (hpasses : PassesOver settings ns c.name s rs t)
    (h : (reconcile settings c).Runs m es (.error (.error e)) m') (hs : t.MayGive es u)
    (hns : c.metadata.ns? = some ns) (hwritten : StatusWritten ns c.name es) :
    ∃ before after, t.status? ns c.name = some before ∧ u.status? ns c.name = some after ∧ after.state = .error ∧
      (before.state ≠ .error → after.messages = before.messages ++ [StatusUpdate.errorMessage e.message]) ∧
      (before.state = .error → after = before ∧
        ∀ first, s.status? ns c.name = some first → first.state ≠ .error → TellsEarlier rs after) := by
  obtain ⟨before, time, hbefore, hafter⟩ := status_of_failed h hs hns hwritten
  refine ⟨before, _, hbefore, hafter, StatusUpdate.state_apply .., StatusUpdate.messages_apply_failed time,
    fun hstate ↦ ?_⟩
  rw [StatusUpdate.apply_failed_of_error time hstate]
  refine ⟨rfl, fun first hfirst hwell ↦ ?_⟩
  obtain ⟨known, hknown, htells⟩ := tellsEarlier_of_passes hpasses hfirst hwell
  obtain rfl := Option.some.inj (hbefore.symm.trans hknown)
  exact htells hstate

/-- A cluster that no pass has looked at yet. -/
private def lone : Cluster where
  metadata := { Kube.ObjectMeta.empty with name := some "db", ns? := some "prod" }
  spec := ⟨⟨1, "image", true, ⟨none, "1Gi"⟩⟩, none, none, false, none⟩
  status := none

/-- A server that holds the cluster. -/
private def loneStore : Store := { Store.empty with clusters := [lone] }

/-- A server that has an error for whoever asks for pods, beside a clock that stands still. -/
private def refusingPods (e : Error) : Interaction.Surroundings Store := fun f s ↦
  match f with
  | .call (.listPods ..) => (.error e, s)
  | f => Store.surroundings Store.standstill f s

private theorem mayAnswer_refusingPods (e : Error) (f : Effect) (s : Store) :
    s.MayAnswer ⟨f, (refusingPods e f s).1⟩ (refusingPods e f s).2 := by
  cases f with
  | call c => cases c <;> first | exact .performed _ | exact .failed _ _
  | now | wait | measure | touch => exact .aside rfl

/-- The server cannot be reached. -/
private def unreachable : Error := .call (.transport "connection refused")

/-- The server takes too long. -/
private def slow : Error := .call (.transport "deadline has elapsed")

/-- What the server holds of the cluster after a pass that could not ask for pods. -/
private def toldStore (e : Error) : Store :=
  { Store.empty with clusters := [lone.updatedBy (.failed e.message) Store.standstill] }

/-- The exchanges of a pass that cannot ask for pods. -/
private def refused (e : Error) (s : Store) : List Exchange :=
  (reconcile .standard lone).courseIn (refusingPods e) .empty s

private theorem runs_refused (e : Error) {s t : Store}
    (hend : (reconcile .standard lone).runIn (refusingPods e) .empty s = ((.error (.error e), .empty), t)) :
    (reconcile .standard lone).Runs .empty (refused e s) (.error (.error e)) .empty ∧ s.MayGive (refused e s) t := by
  have hrun := runs_courseIn (reconcile .standard lone) (refusingPods e) .empty s
  have hgives := Store.mayGive_course (mayAnswer_refusingPods e) ((reconcile .standard lone).run.run .empty) s
  change s.MayGive _ (runIn ..).2 at hgives
  rw [hend] at hrun hgives
  exact ⟨hrun, hgives⟩

/-- The first pass tells of its error. -/
private theorem runs_first (e : Error) :
    (reconcile .standard lone).Runs .empty (refused e loneStore) (.error (.error e)) .empty ∧
      loneStore.MayGive (refused e loneStore) (toldStore e) ∧ StatusWritten "prod" "db" (refused e loneStore) := by
  obtain ⟨hrun, hgives⟩ := runs_refused e (s := loneStore) (t := toldStore e) rfl
  exact ⟨hrun, hgives, _, rfl, .inr ⟨_, _, rfl⟩⟩

/-- The next pass finds that an error was told, and tells nothing. -/
private theorem runs_next (e e' : Error) :
    (reconcile .standard lone).Runs .empty (refused e' (toldStore e)) (.error (.error e')) .empty ∧
      (toldStore e).MayGive (refused e' (toldStore e)) (toldStore e) ∧
      StatusWritten "prod" "db" (refused e' (toldStore e)) := by
  obtain ⟨hrun, hgives⟩ := runs_refused e' (s := toldStore e) (t := toldStore e) rfl
  exact ⟨hrun, hgives, _, rfl, .inl ⟨_, rfl⟩⟩

/-- Of two passes that fail with different errors the second is not told. -/
theorem untold_slow : ∃ es₁ es₂ t after,
    (reconcile .standard lone).Runs .empty es₁ (.error (.error unreachable)) .empty ∧ loneStore.MayGive es₁ t ∧
      StatusWritten "prod" "db" es₁ ∧
      (reconcile .standard lone).Runs .empty es₂ (.error (.error slow)) .empty ∧ t.MayGive es₂ t ∧
      StatusWritten "prod" "db" es₂ ∧ t.status? "prod" "db" = some after ∧ after.state = .error ∧
      StatusUpdate.errorMessage slow.message ∉ after.messages := by
  obtain ⟨hfirst, hgives₁, hwritten₁⟩ := runs_first unreachable
  obtain ⟨hnext, hgives₂, hwritten₂⟩ := runs_next unreachable slow
  exact ⟨_, _, _, _, hfirst, hgives₁, hwritten₁, hnext, hgives₂, hwritten₂, rfl, rfl, by decide +kernel⟩

/-- The first of the two passes is told, and stays told after the second. -/
theorem told_of_failed_slow : ∃ es₁ es₂ t after,
    (reconcile .standard lone).Runs .empty es₁ (.error (.error unreachable)) .empty ∧ loneStore.MayGive es₁ t ∧
      (reconcile .standard lone).Runs .empty es₂ (.error (.error slow)) .empty ∧ t.MayGive es₂ t ∧
      PassesOver .standard "prod" "db" loneStore [.error (.error unreachable)] t ∧
      t.status? "prod" "db" = some after ∧ after.state = .error ∧
      TellsEarlier [.error (.error unreachable)] after := by
  obtain ⟨hfirst, hgives₁, -⟩ := runs_first unreachable
  obtain ⟨hnext, hgives₂, hwritten⟩ := runs_next unreachable slow
  have hpasses : PassesOver .standard "prod" "db" loneStore [.error (.error unreachable)] (toldStore unreachable) :=
    .pass .none ⟨rfl, rfl⟩ hfirst hgives₁
  obtain ⟨before, after, hbefore, hafter, hstate, -, hkept⟩ := told_of_failed hpasses hnext hgives₂ rfl hwritten
  obtain rfl := Option.some.inj (hbefore.symm.trans hafter)
  obtain ⟨-, htells⟩ := hkept hstate
  exact ⟨_, _, _, before, hfirst, hgives₁, hnext, hgives₂, hpasses, hbefore, hstate, htells _ rfl nofun⟩

end GaleraOperator
