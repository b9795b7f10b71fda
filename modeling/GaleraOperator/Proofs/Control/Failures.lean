import GaleraOperator.Proofs.Backoff.Collapse
import GaleraOperator.Proofs.Control.Containment

/-!
# Failures in a row

The passes over all clusters share one memory, in which the failures of a cluster are counted under its key: a pass that
fails is counted once it has ended, and one that ends well, or finds the cluster being deleted, begins the count anew.
So whatever passes over other clusters come in between, and wherever a pass has failed, the number that the next delay of
a cluster is chosen by is the number of its passes that have failed in a row before.
-/

namespace GaleraOperator

open Pass

variable {settings : Settings} {c : Cluster} {m m' : Memory} {es : List Exchange} {failed : Option UInt32}

/-- The key under which the operator remembers things of a cluster. -/
def Cluster.key (c : Cluster) : String := clusterKey (Objects.namespaceOf c) c.name

namespace Memory

variable {key other : String}

/-- What is counted depends on nothing else that is remembered. -/
theorem failureCount_congr (h : m'.failures = m.failures) (key : String) : m'.failureCount key = m.failureCount key := by
  rw [failureCount, failureCount, h]

theorem failures_recordFailure (h : m'.failures = m.failures) (key : String) :
    (m'.recordFailure key).failures = (m.recordFailure key).failures := by
  rw [recordFailure, recordFailure, h, failureCount_congr h]

theorem failureCount_clearFailures_self (m : Memory) (key : String) : (m.clearFailures key).failureCount key = 0 := by
  simp [clearFailures, failureCount]

theorem failureCount_clearFailures_of_ne (m : Memory) (h : other ≠ key) :
    (m.clearFailures key).failureCount other = m.failureCount other := by
  simp [clearFailures, failureCount, h]

end Memory

/-! ## One pass -/

/-- The steps of a pass count no failures. -/
theorem AfterSteps.failures_eq {key : String} {registry : Registry} (h : AfterSteps key registry m m') :
    m'.failures = m.failures := by
  rcases h with ⟨rfl, -⟩ | rfl <;> rfl

/-- A pass that ends well forgets the failures of its cluster, and one that fails, in whatever step, leaves all counts
to what follows it. -/
theorem failures_of_runs {r : Except Failure Requeue} (h : (reconcile settings c).Runs m es r m')
    (hcalm : ∀ o, r ≠ .error (.overflow o)) :
    (∀ requeue, r = .ok requeue → m'.failures = (m.clearFailures c.key).failures) ∧
      (∀ e, r = .error (.error e) → m'.failures = m.failures) := by
  cases hns : c.metadata.ns? with
  | none =>
    simp only [reconcile, hns] at h
    obtain ⟨-, rfl, rfl⟩ := runs_fail.1 h
    exact ⟨by simp, fun _ _ ↦ rfl⟩
  | some ns =>
    have hkey : c.key = clusterKey ns c.name := congrArg (clusterKey · c.name) (congrArg (·.getD "") hns)
    rw [hkey]
    by_cases hlive : c.metadata.deletionTimestamp.isSome
    · rw [reconcile_deleted hns hlive] at h
      have hforget := runs_modify_bind.1 h
      obtain ⟨-, rfl, rfl⟩ := runs_pure.1 hforget
      exact ⟨fun _ _ ↦ rfl, by simp⟩
    · rw [reconcile_live hns (Bool.eq_false_iff.2 hlive)] at h
      rcases runs_bind.1 h with ⟨steps, _, result, m₁, rfl, hattempt, hrest⟩ | ⟨f, rfl, hattempt⟩
      · have hrun : (runSteps settings (clusterKey ns c.name) c).Runs m steps (result.mapError .error) m₁ := by
          rcases runs_attempt.1 hattempt with ⟨_, hr, hrun⟩ | ⟨_, hr, hrun⟩ | ⟨_, hr, -⟩ <;> cases hr <;> exact hrun
        obtain ⟨_, _, -, hafter, -⟩ := stepsTaken_of_runs hrun hns (by cases result <;> simp [Except.mapError])
        obtain ⟨_, _, _, -, -, -, hends⟩ := runs_ending hrest hcalm
        have hsteps := hafter.failures_eq
        cases hends with
        | failed | unwritten => exact ⟨by simp, fun _ _ ↦ hsteps⟩
        | well => exact ⟨fun _ _ ↦ congrArg (Dict.erase · (clusterKey ns c.name)) hsteps, by simp⟩
      · rcases runs_attempt.1 hattempt with ⟨_, hr, -⟩ | ⟨_, hr, -⟩ | ⟨o, hr, -⟩ <;> cases hr
        exact absurd rfl (hcalm o)

/-- Counting a failure cannot fail, and tells how many there were before it. -/
theorem runs_afterFailure {r : Except Failure UInt32} (h : (afterFailure c).Runs m es r m') :
    r = .ok (m.failureCount c.key) ∧ m' = m.recordFailure c.key := by
  obtain ⟨_, rest, rfl, hrest⟩ := runs_ask_bind.1 (runs_modify_bind.1 (runs_get_bind.1 h))
  obtain ⟨-, rfl, rfl⟩ := runs_pure.1 hrest
  exact ⟨rfl, rfl⟩

/-- A pass over a cluster is completed. If it fails, it is counted, and the delay after it is chosen by the number of
failures before it that the count comes to. -/
inductive Completes (settings : Settings) (c : Cluster) (m : Memory) : Option UInt32 → Memory → Prop where
  | well {es : List Exchange} {requeue : Requeue} {m' : Memory}
      (pass : (reconcile settings c).Runs m es (.ok requeue) m') : Completes settings c m none m'
  | failed {es fs : List Exchange} {e : Error} {before : UInt32} {m₁ m' : Memory}
      (pass : (reconcile settings c).Runs m es (.error (.error e)) m₁)
      (count : (afterFailure c).Runs m₁ fs (.ok before) m') : Completes settings c m (some before) m'

/-- What a completed pass makes of all counts. -/
theorem Completes.failures_eq (h : Completes settings c m failed m') :
    m'.failures = (if failed.isSome then m.recordFailure c.key else m.clearFailures c.key).failures := by
  cases h with
  | well pass => exact (failures_of_runs pass (by simp)).1 _ rfl
  | failed pass count =>
    obtain ⟨-, rfl⟩ := runs_afterFailure count
    exact Memory.failures_recordFailure ((failures_of_runs pass (by simp)).2 _ rfl) c.key

/-- A pass that fails is told the count of before. -/
theorem Completes.before_eq {before : UInt32} (h : Completes settings c m (some before) m') :
    before = m.failureCount c.key := by
  cases h with
  | failed pass count =>
    obtain ⟨hr, -⟩ := runs_afterFailure count
    cases hr
    exact Memory.failureCount_congr ((failures_of_runs pass (by simp)).2 _ rfl) c.key

/-- A completed pass counts for its cluster, and for no other one. -/
theorem Completes.counts (h : Completes settings c m failed m') :
    (m'.failureCount c.key).toNat =
        (if failed.isSome then min ((m.failureCount c.key).toNat + 1) Text.maxU32 else 0) ∧
      ∀ key ≠ c.key, m'.failureCount key = m.failureCount key := by
  cases failed with
  | none =>
    have hcleared : ∀ key, m'.failureCount key = (m.clearFailures c.key).failureCount key :=
      Memory.failureCount_congr h.failures_eq
    refine ⟨?_, fun key hkey ↦ (hcleared key).trans (m.failureCount_clearFailures_of_ne hkey)⟩
    rw [hcleared, Memory.failureCount_clearFailures_self]
    rfl
  | some before =>
    have hrecorded : ∀ key, m'.failureCount key = (m.recordFailure c.key).failureCount key :=
      Memory.failureCount_congr h.failures_eq
    refine ⟨?_, fun key hkey ↦ (hrecorded key).trans (m.failureCount_recordFailure_of_ne hkey)⟩
    rw [hrecorded, Memory.toNat_failureCount_recordFailure]
    rfl

/-! ## Passes over any clusters -/

/-- A pass that was completed: which cluster it went over, and how many failures it was told were before it, if it
failed. -/
structure PassEntry where
  ns : String
  name : String
  failed : Option UInt32
  deriving DecidableEq, Repr

namespace PassEntry

/-- Whether a pass went over the cluster of a namespace and a name. -/
def isOf (ns name : String) (p : PassEntry) : Bool := p.ns = ns && p.name = name

/-- The number of passes at the end of a history that have failed, back to the last one that ended well. -/
def failuresInARow (history : List PassEntry) : Nat := (history.rtakeWhile fun p ↦ p.failed.isSome).length

theorem failuresInARow_concat (history : List PassEntry) (p : PassEntry) :
    failuresInARow (history ++ [p]) = if p.failed.isSome then failuresInARow history + 1 else 0 := by
  unfold failuresInARow
  split
  · next h => rw [List.rtakeWhile_concat_pos (fun p : PassEntry ↦ p.failed.isSome) _ _ h, List.length_append]; rfl
  · next h => rw [List.rtakeWhile_concat_neg (fun p : PassEntry ↦ p.failed.isSome) _ _ h, List.length_nil]

end PassEntry

open PassEntry (failuresInARow failuresInARow_concat)

/-- Completed passes over any clusters, in any order, since the operator was started. -/
inductive Passes (settings : Settings) : List PassEntry → Memory → Prop where
  | none : Passes settings [] .empty
  | pass {history : List PassEntry} {c : Cluster} {failed : Option UInt32} {m m' : Memory}
      (before : Passes settings history m) (last : Completes settings c m failed m') :
      Passes settings (history ++ [⟨Objects.namespaceOf c, c.name, failed⟩]) m'

variable {history earlier later : List PassEntry} {p : PassEntry} {before : UInt32}

/-- The count of a cluster is the number of its failures in a row, up to the greatest number. -/
theorem Passes.toNat_failureCount (h : Passes settings history m) (hslash : ∀ p ∈ history, '/' ∉ p.ns.toList)
    (ns name : String) (hns : '/' ∉ ns.toList) : (m.failureCount (clusterKey ns name)).toNat =
      min (failuresInARow (history.filter (·.isOf ns name))) Text.maxU32 := by
  induction h with
  | none => rfl
  | @pass history c failed m m' before last ih =>
    have hbefore := ih fun p hp ↦ hslash p (List.mem_append_left _ hp)
    have hslash' : '/' ∉ (Objects.namespaceOf c).toList := hslash _ (List.mem_append_right _ (List.mem_singleton_self _))
    obtain ⟨hself, hothers⟩ := last.counts
    rw [List.filter_append]
    by_cases hplace : Objects.namespaceOf c = ns ∧ c.name = name
    · obtain ⟨rfl, rfl⟩ := hplace
      have hentry : PassEntry.isOf (Objects.namespaceOf c) c.name ⟨Objects.namespaceOf c, c.name, failed⟩ = true := by
        simp [PassEntry.isOf]
      rw [List.filter_cons_of_pos hentry, List.filter_nil, failuresInARow_concat]
      change (m'.failureCount c.key).toNat = _
      rw [hself]
      cases failed with
      | none => rfl
      | some before =>
        simp only [Option.isSome_some, if_true]
        change (m.failureCount c.key).toNat = _ at hbefore
        omega
    · have hentry : PassEntry.isOf ns name ⟨Objects.namespaceOf c, c.name, failed⟩ = false := by
        simpa [PassEntry.isOf] using hplace
      have hkey : clusterKey ns name ≠ c.key := by
        intro hkey
        obtain ⟨rfl, rfl⟩ := clusterKey_inj hslash' hns hkey
        exact hplace ⟨rfl, rfl⟩
      rw [List.filter_cons_of_neg (by simp [hentry]), List.filter_nil, List.append_nil, hothers _ hkey, hbefore]

/-- Where namespaces have no slash, the number that the delay after a failed pass is chosen by is the number of passes
over the same cluster that have failed before it, back to the last one that ended well or found the cluster being
deleted, up to the greatest number. What has become of any other cluster does not matter. -/
theorem before_eq_failuresInARow (h : Passes settings history m) (hslash : ∀ p ∈ history, '/' ∉ p.ns.toList)
    (hpass : history = earlier ++ p :: later) (hfailed : p.failed = some before) :
    before.toNat = min (failuresInARow (earlier.filter (·.isOf p.ns p.name))) Text.maxU32 := by
  induction h generalizing later with
  | none => simp at hpass
  | @pass history c failed m m' passes last ih =>
    rcases List.eq_nil_or_concat later with rfl | ⟨rest, q, rfl⟩
    · obtain ⟨rfl, hlast⟩ := List.append_inj' hpass rfl
      obtain rfl := (List.cons.inj hlast).1
      obtain rfl : failed = some before := hfailed
      rw [last.before_eq]
      exact passes.toNat_failureCount (fun p hp ↦ hslash p (List.mem_append_left _ hp)) _ _
        (hslash _ (List.mem_append_right _ (List.mem_singleton_self _)))
    · rw [List.concat_eq_append, ← List.cons_append, ← List.append_assoc] at hpass
      obtain ⟨rfl, -⟩ := List.append_inj' hpass rfl
      exact ih (fun p hp ↦ hslash p (List.mem_append_left _ hp)) rfl

/-- A cluster of a namespace. -/
private def spaced (ns : String) : Cluster where
  metadata := { Kube.ObjectMeta.empty with name := some "db", ns? := some ns }
  spec := ⟨⟨1, "image", true, ⟨none, "1Gi"⟩⟩, none, none, false, none⟩
  status := none

/-- The cluster of that namespace when it is being deleted. -/
private def leaving (ns : String) : Cluster :=
  { spaced ns with metadata.deletionTimestamp := some Store.standstill }

/-- A server that cannot be reached. -/
private def offline : Interaction.Surroundings Unit := fun e w ↦
  match e with
  | .call _ => (.error (.call (.transport "connection refused")), w)
  | .now => (Store.standstill, w)
  | .wait _ | .measure .. | .touch _ => ((), w)

/-- Without a server a pass fails. -/
private theorem completes_spaced (ns : String) (m : Memory) :
    Completes .standard (spaced ns) m (some (m.failureCount (spaced ns).key)) (m.recordFailure (spaced ns).key) :=
  .failed (runs_courseIn (reconcile .standard (spaced ns)) offline m ())
    (runs_courseIn (afterFailure (spaced ns)) offline m ())

/-- A cluster that is being deleted is forgotten without asking a server. -/
private theorem completes_leaving (ns : String) (m : Memory) :
    Completes .standard (leaving ns) m none (m.forget (spaced ns).key) :=
  .well (runs_courseIn (reconcile .standard (leaving ns)) offline m ())

/-- What becomes of two clusters of one name that are passed over in turn. The failures of the one are counted on while
the count of the other begins anew. -/
private def twoNamespaces : List PassEntry :=
  [⟨"prod", "db", some 0⟩, ⟨"test", "db", some 0⟩, ⟨"prod", "db", some 1⟩, ⟨"test", "db", none⟩, ⟨"test", "db", some 0⟩]

private theorem passes_twoNamespaces : ∃ m, Passes .standard (twoNamespaces ++ [⟨"prod", "db", some 2⟩]) m := by
  have hstart : Passes .standard [] .empty := .none
  have hfirst := (hstart.pass (completes_spaced "prod" _)).pass (completes_spaced "test" _)
  have hsecond := (hfirst.pass (completes_spaced "prod" _)).pass (completes_leaving "test" _)
  exact ⟨_, (hsecond.pass (completes_spaced "test" _)).pass (completes_spaced "prod" _)⟩

/-- The third failure of the first cluster is told of two before it. -/
theorem before_eq_failuresInARow_twoNamespaces : ∃ m,
    Passes .standard (twoNamespaces ++ [⟨"prod", "db", some 2⟩]) m ∧
      (∀ p ∈ twoNamespaces ++ [⟨"prod", "db", some 2⟩], '/' ∉ p.ns.toList) ∧
      (2 : UInt32).toNat = min (failuresInARow (twoNamespaces.filter (·.isOf "prod" "db"))) Text.maxU32 := by
  obtain ⟨m, hpasses⟩ := passes_twoNamespaces
  have hslash : ∀ p ∈ twoNamespaces ++ [⟨"prod", "db", some 2⟩], '/' ∉ p.ns.toList := by decide +kernel
  exact ⟨m, hpasses, hslash, before_eq_failuresInARow hpasses hslash rfl rfl⟩

end GaleraOperator
