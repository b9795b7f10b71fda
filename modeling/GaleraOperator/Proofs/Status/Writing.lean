import GaleraOperator.Proofs.ClusterAccess
import GaleraOperator.Proofs.Status.Update
import GaleraOperator.Status.Write

/-!
# Writing a status

A status that was brought up to date by an update is not changed by it again. So where nothing is refused, a write
leaves the cluster with the status up to date, and another one by the same update has nothing to write.
-/

namespace GaleraOperator

open Pass

/-- A cluster with its status brought up to date. -/
def Cluster.updatedBy (c : Cluster) (u : StatusUpdate) (time : Instant) : Cluster :=
  { c with status := some (u.apply time (c.status.getD .initial)) }

namespace StatusUpdate

variable {u : StatusUpdate} {σ : Type} {m m' : σ} {es : List Exchange} {r : Except Failure Unit} {st t : Store}
  {ns name : String} {held c : Cluster} {clock : Instant} {settings : Settings}

/-- Where nothing is refused, a cluster that is held is read. -/
theorem runs_fetchCluster_held {r : Except Failure Cluster} (h : (fetchCluster ns name).Runs m es r m')
    (hs : st.Serves es t) (hgranted : Store.Granted es) (hheld : st.clusters.find? ns name = some held) :
    m' = m ∧ t = st ∧ Reads es ∧ r = .ok held := by
  obtain ⟨rest, rfl, hrest, hserves, -⟩ := hgranted.runs_call_bind h hs
  simp only [Store.perform, hheld] at hrest
  obtain ⟨rfl, rfl, rfl⟩ := runs_pure.1 hrest
  obtain rfl : t = st := hserves
  exact ⟨rfl, rfl, by simp [Call.isWrite], rfl⟩

/-- A write that is refused nothing ends well and leaves the cluster with the status up to date. Nothing is written if
it was so before. -/
structure Written (u : StatusUpdate) (ns name : String) (clock : Instant) (held : Cluster) (st : Store)
    (es : List Exchange) (r : Except Failure Unit) (t : Store) : Prop where
  ok : r = .ok ()
  same : st.SameButClusters t
  stored : t.clusters.find? ns name = some (held.updatedBy u clock)
  reads : u.needsWrite clock (held.status.getD .initial) = false → Reads es

theorem runs_writeOnce_granted (h : (u.writeOnce ns name).Runs m es r m') (hs : st.Serves es t)
    (hgranted : Store.Granted es) (hclock : ∀ time, ⟨.now, time⟩ ∈ es → time = clock)
    (hheld : st.clusters.find? ns name = some held) : m' = m ∧ u.Written ns name clock held st es r t := by
  rcases runs_bind.1 h with ⟨es₁, es₂, latest, m₁, rfl, hfetch, hrest⟩ | ⟨f, rfl, hfetch⟩
  · obtain ⟨v, hs₁, hs₂⟩ := Store.serves_append.1 hs
    obtain ⟨hgranted₁, hgranted₂⟩ := Store.granted_append.1 hgranted
    obtain ⟨rfl, rfl, hreads, hr⟩ := runs_fetchCluster_held hfetch hs₁ hgranted₁ hheld
    cases hr
    obtain ⟨time, rest, rfl, hcheck⟩ := runs_ask_bind.1 hrest
    obtain rfl : time = clock := hclock time (by simp)
    obtain ⟨v', hv', hs₃⟩ := hs₂
    obtain rfl : v' = v := hv'
    have hgranted₃ : Store.Granted rest := fun call e hmem ↦ hgranted₂ call e (List.mem_cons_of_mem _ hmem)
    by_cases hneeds : u.needsWrite time (held.status.getD .initial) = true
    · simp only [hneeds, if_true] at hcheck
      obtain ⟨last, rfl, hend, hput, -⟩ := hgranted₃.runs_call_bind hcheck hs₃
      obtain ⟨rfl, rfl, rfl⟩ := runs_pure.1 hend
      obtain rfl : t = { v' with clusters := v'.clusters.put (held.updatedBy u time) } := hput
      refine ⟨rfl, rfl, rfl, Objects.find?_put_of_find? hheld rfl, fun hneedless ↦ ?_⟩
      exact absurd hneeds (Bool.eq_false_iff.1 hneedless)
    · simp only [hneeds] at hcheck
      obtain ⟨rfl, rfl, rfl⟩ := runs_pure.1 hcheck
      obtain rfl : t = v' := hs₃
      refine ⟨rfl, rfl, .refl _, ?_, fun _ ↦ by simpa using hreads⟩
      rw [hheld, Cluster.updatedBy, apply_eq_self hneeds]
      cases hstatus : held.status with
      | none =>
        rw [hstatus] at hneeds
        exact absurd (needsWrite_initial u time) hneeds
      | some status => rw [Option.getD_some, ← hstatus]
  · obtain ⟨-, -, -, hr⟩ := runs_fetchCluster_held hfetch hs hgranted hheld
    cases hr

/-- No attempt is lost where nothing is refused, so the first one is the last. -/
theorem runs_retry_granted (h : (retryOnConflict settings.writeAttempts (u.writeOnce ns name)).Runs m es r m')
    (hs : st.Serves es t) (hgranted : Store.Granted es) (hclock : ∀ time, ⟨.now, time⟩ ∈ es → time = clock)
    (hheld : st.clusters.find? ns name = some held) : m' = m ∧ u.Written ns name clock held st es r t := by
  obtain ⟨lost, last, m₁, rfl, hlost, hlast⟩ := Runs.retryOnConflict h
  cases hlost with
  | none => exact runs_writeOnce_granted hlast hs hgranted hclock hheld
  | next past attempt conflict rest =>
    rw [List.append_assoc] at hs hgranted hclock
    obtain ⟨v, hs₁, -⟩ := Store.serves_append.1 hs
    obtain ⟨hgranted₁, -⟩ := Store.granted_append.1 hgranted
    obtain ⟨-, hwritten⟩ := runs_writeOnce_granted attempt hs₁ hgranted₁
      (fun time hmem ↦ hclock time (List.mem_append_left _ hmem)) hheld
    cases hwritten.ok

/-- Writing a status reads the cluster and writes nothing but its status. -/
theorem asks_write {P : Call → Prop} (hget : ∀ ns name, P (.getCluster ns name))
    (hput : ∀ ns c, P (.replaceClusterStatus ns c)) : Asks P (u.write settings c : Pass σ Unit) := by
  have honce (ns name : String) : Asks P (u.writeOnce ns name : Pass σ Unit) := by
    refine (asks_fetchCluster (hget ns name)).bind fun latest ↦ (Asks.aside fun _ ↦ rfl).bind fun time ↦ ?_
    split
    · exact (Asks.call (hput _ _)).bind fun _ ↦ .pure _
    · exact .pure _
  unfold write
  split
  · refine (Asks.attempt (Asks.retryOnConflict (honce _ _))).bind fun result ↦ ?_
    split
    · exact .pure _
    · split <;> exact .fail _
  · exact .fail _

theorem runs_write_granted (h : (u.write settings c).Runs m es r m') (hs : st.Serves es t)
    (hgranted : Store.Granted es) (hclock : ∀ time, ⟨.now, time⟩ ∈ es → time = clock) (hns : c.metadata.ns? = some ns)
    (hheld : st.clusters.find? ns c.name = some held) : m' = m ∧ u.Written ns c.name clock held st es r t := by
  simp only [write, hns] at h
  rcases runs_bind.1 h with ⟨es₁, es₂, result, m₁, rfl, hattempt, hrest⟩ | ⟨f, rfl, hattempt⟩
  · obtain ⟨v, hs₁, hs₂⟩ := Store.serves_append.1 hs
    obtain ⟨hgranted₁, -⟩ := Store.granted_append.1 hgranted
    have hclock₁ : ∀ time, ⟨.now, time⟩ ∈ es₁ → time = clock :=
      fun time hmem ↦ hclock time (List.mem_append_left _ hmem)
    rcases runs_attempt.1 hattempt with ⟨a, hr, hrun⟩ | ⟨e, hr, hrun⟩ | ⟨o, hr, hrun⟩ <;>
      obtain ⟨rfl, hwritten⟩ := runs_retry_granted hrun hs₁ hgranted₁ hclock₁ hheld
    · cases hr
      obtain ⟨rfl, rfl, rfl⟩ := runs_pure.1 hrest
      obtain rfl : t = v := hs₂
      rw [List.append_nil]
      exact ⟨rfl, hwritten⟩
    · cases hwritten.ok
    · cases hwritten.ok
  · rcases runs_attempt.1 hattempt with ⟨a, hr, -⟩ | ⟨e, hr, -⟩ | ⟨o, hr, hrun⟩ <;> cases hr
    obtain ⟨-, hwritten⟩ := runs_retry_granted hrun hs hgranted hclock hheld
    cases hwritten.ok

end StatusUpdate

end GaleraOperator
