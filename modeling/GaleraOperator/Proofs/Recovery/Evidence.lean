import GaleraOperator.Api.Subject
import GaleraOperator.Proofs.Recovery.Leader
import GaleraOperator.Proofs.Run
import GaleraOperator.Recovery.Basic

/-!
# What a recovery goes by

No pod is told to start a new cluster unless all that speaks for it was seen in the same pass: every expected pod is down,
the log of each of them was fetched and is the banner, and the pod is the one with the latest transaction. This holds of
every run, whatever the calls are answered with and whichever of them fail.
-/

namespace GaleraOperator.Recovery

open Pass

variable {σ : Type} {m m' : σ} {es : List Exchange}

/-- The call that fetches the banner of an expected pod. -/
def logCall (ns : String) (c : Cluster) (ordinal : Nat) : Call :=
  .logs ns (expectedPod c ordinal) databaseContainer CrashLog.lineCount

/-- The call that tells a pod to start a new cluster. -/
def startCall (ns pod : String) : Call := .exec ns pod databaseContainer startCommand none false

/-- The log of an expected pod was fetched, is the banner, and tells the number of the last transaction. -/
def Reported (ns : String) (c : Cluster) (es : List Exchange) (ordinal : Nat) (seqno : Int) : Prop :=
  ∃ log : String, ⟨.call (logCall ns c ordinal), .ok log⟩ ∈ es ∧ CrashLog.isBanner log = true ∧
    CrashLog.seqno (expectedPod c ordinal) log = .ok seqno

/-- Whether an expected pod is known to run without being ready. -/
def IsDown (c : Cluster) (pods : List PodObservation) (ordinal : Nat) : Prop :=
  ∃ pod, pods.find? (·.name = expectedPod c ordinal) = some pod ∧ pod.running = true ∧ pod.ready = false

/-- All that has to be known before a pod may be told to start a new cluster. -/
structure Justified (c : Cluster) (pods : List PodObservation) (es : List Exchange) (ns pod : String) : Prop where
  autoRecovery : c.spec.database.autoRecovery = true
  unpaused : c.spec.paused = false
  declared : 1 ≤ c.spec.database.size.toInt
  down : ∀ i ∈ ordinals c, IsDown c pods i
  /-- Among the pods with the latest transaction it is the one with the lowest ordinal. -/
  elected : ∃ seqno : Nat → Int, (∀ i ∈ ordinals c, Reported ns c es i (seqno i)) ∧
    ∃ leader ∈ ordinals c, pod = expectedPod c leader ∧
      ∀ i ∈ ordinals c, seqno i < seqno leader ∨ seqno i = seqno leader ∧ leader ≤ i
  present : ∃ p, ⟨.call (.getPod ns pod), .ok (some p)⟩ ∈ es

theorem podObstacle?_eq_none {pods : List PodObservation} {c : Cluster} {i : Nat} :
    podObstacle? pods (expectedPod c i) = none ↔ IsDown c pods i := by
  unfold podObstacle? IsDown
  cases h : pods.find? (·.name = expectedPod c i) with
  | none => simp
  | some pod => cases hrun : pod.running <;> cases hready : pod.ready <;> simp [hrun, hready]

theorem podsObstacle?_eq_none {c : Cluster} {pods : List PodObservation} {count first : Nat} :
    podsObstacle? c pods count first = none ↔ ∀ i, first ≤ i → i < first + count → IsDown c pods i := by
  induction count generalizing first with
  | zero => simp [podsObstacle?]; omega
  | succ count ih =>
    rw [podsObstacle?, Option.orElse_eq_orElse, Option.orElse_eq_or, Option.or_eq_none_iff, podObstacle?_eq_none, ih]
    constructor
    · rintro ⟨hfirst, hrest⟩ i hi hlt
      rcases Nat.eq_or_lt_of_le hi with rfl | hi
      · exact hfirst
      · exact hrest i hi (by omega)
    · intro h
      exact ⟨h first (Nat.le_refl _) (by omega), fun i hi hlt ↦ h i (by omega) (by omega)⟩

/-- Without an obstacle everything that does not take a look at the logs is in favour of a crash. -/
theorem obstacle?_eq_none {c : Cluster} {pods : List PodObservation} :
    obstacle? c pods = none ↔ c.spec.database.autoRecovery = true ∧ c.spec.paused = false ∧
      c.spec.database.size ≠ 0 ∧ ∀ i ∈ ordinals c, IsDown c pods i := by
  unfold obstacle?
  cases c.spec.database.autoRecovery <;> cases c.spec.paused <;> by_cases hsize : c.spec.database.size = 0 <;>
    simp [hsize, podsObstacle?_eq_none, ordinals]

/-- A pod is asked for its log and for nothing else, and what it says of itself stands there. -/
theorem runs_signature {ns : String} {c : Cluster} {i : Nat} {r : Except Failure (Except SkipReason Signature)}
    (h : (signature ns c i).Runs m es r m') :
    calls es = [logCall ns c i] ∧
      ∀ found, r = .ok (.ok found) → found.pod = expectedPod c i ∧ found.ordinal = i ∧ Reported ns c es i found.seqno := by
  unfold signature at h
  obtain ⟨e | log, rest, rfl, hrest⟩ := runs_attempt_call_bind.1 h
  · have : rest = [] ∧ ∀ found, r ≠ .ok (.ok found) := by
      simp only at hrest
      split at hrest <;> simp_all
    exact ⟨by simp [this.1, logCall], fun found hr ↦ absurd hr (this.2 found)⟩
  · simp only at hrest
    split at hrest
    · next hbanner =>
      split at hrest
      · next seqno hseqno =>
        obtain ⟨rfl, rfl, rfl⟩ := runs_pure.1 hrest
        refine ⟨rfl, fun found hr ↦ ?_⟩
        cases hr
        exact ⟨rfl, rfl, log, by simp [logCall], hbanner, hseqno⟩
      · obtain ⟨rfl, rfl, rfl⟩ := runs_fail.1 hrest
        exact ⟨rfl, fun found hr ↦ nomatch hr⟩
    · obtain ⟨rfl, rfl, rfl⟩ := runs_pure.1 hrest
      exact ⟨rfl, fun found hr ↦ nomatch hr⟩

/-- What an expected pod says of itself stands in its log, which was fetched. -/
def Tells (ns : String) (c : Cluster) (es : List Exchange) (i : Nat) (s : Signature) : Prop :=
  s.pod = expectedPod c i ∧ s.ordinal = i ∧ Reported ns c es i s.seqno

theorem Tells.mono {ns : String} {c : Cluster} {fs : List Exchange} {i : Nat} {s : Signature} (hsub : es ⊆ fs)
    (h : Tells ns c es i s) : Tells ns c fs i s := by
  obtain ⟨hpod, hordinal, log, hlog, hbanner, hseqno⟩ := h
  exact ⟨hpod, hordinal, log, hsub hlog, hbanner, hseqno⟩

/-- The pods are asked for their logs one after the other, up to the first that has nothing to say, and for nothing
else; what all of them say stands in their logs. -/
theorem runs_signatures {ns : String} {c : Cluster} {is : List Nat}
    {r : Except Failure (Except SkipReason (List Signature))} (h : (signatures ns c is).Runs m es r m') :
    calls es <+: is.map (logCall ns c) ∧
      ∀ found, r = .ok (.ok found) → calls es = is.map (logCall ns c) ∧ List.Forall₂ (Tells ns c es) is found := by
  induction is generalizing m m' es r with
  | nil =>
    obtain ⟨rfl, rfl, rfl⟩ := runs_pure.1 h
    exact ⟨List.prefix_rfl, fun found hr ↦ by cases hr; exact ⟨rfl, .nil⟩⟩
  | cons i is ih =>
    rw [signatures, runs_bind] at h
    rcases h with ⟨es₁, es₂, reason | first, m₁, rfl, hfirst, hrest⟩ | ⟨e, rfl, hfirst⟩
    · obtain ⟨hcalls, -⟩ := runs_signature hfirst
      obtain ⟨rfl, rfl, -⟩ := runs_pure.1 hrest
      exact ⟨by simp [hcalls], fun found hr ↦ nomatch hr⟩
    · obtain ⟨hcalls, htells⟩ := runs_signature hfirst
      rcases runs_bind.1 hrest with ⟨es₃, es₄, reason | others, m₂, rfl, hothers, hend⟩ | ⟨e, rfl, hothers⟩
      · obtain ⟨rfl, rfl, -⟩ := runs_pure.1 hend
        exact ⟨by simp [hcalls, (ih hothers).1], fun found hr ↦ nomatch hr⟩
      · obtain ⟨rfl, rfl, -⟩ := runs_pure.1 hend
        refine ⟨by simp [hcalls, (ih hothers).1], fun found hr ↦ ?_⟩
        cases hr
        obtain ⟨hcalls', hforall⟩ := (ih hothers).2 others rfl
        refine ⟨by simp [hcalls, hcalls'], .cons ?_ (hforall.imp fun _ _ ↦ Tells.mono (by simp))⟩
        exact Tells.mono (by simp) (htells first rfl)
      · exact ⟨by simp [hcalls, (ih hothers).1], fun found hr ↦ nomatch hr⟩
    · obtain ⟨hcalls, -⟩ := runs_signature hfirst
      exact ⟨by simp [hcalls], fun found hr ↦ nomatch hr⟩

/-- A pod is told to start a new cluster only after it was found to exist. -/
theorem runs_signal {settings : Settings} {ns : String} {c : Cluster} {leader : Signature}
    {r : Except Failure RecoveryOutcome} (h : (signal settings ns c leader).Runs m es r m') :
    calls es = [.getPod ns leader.pod] ∨
      calls es = [.getPod ns leader.pod, startCall ns leader.pod] ∧
        ∃ pod, ⟨.call (.getPod ns leader.pod), .ok (some pod)⟩ ∈ es := by
  unfold signal at h
  rcases runs_call_bind.1 h with ⟨e, rfl, -⟩ | ⟨pod?, rest, rfl, hrest⟩
  · exact .inl rfl
  · cases pod? with
    | none =>
      obtain ⟨rfl, -⟩ := runs_pure.1 hrest
      exact .inl rfl
    | some pod =>
      refine .inr ⟨?_, pod, by simp⟩
      simp only [Option.isNone_some, Bool.false_eq_true, if_false] at hrest
      rcases runs_call_bind.1 hrest with ⟨e, rfl, -⟩ | ⟨output, rest, rfl, hend⟩
      · rfl
      · have : calls rest = [] := by
          split at hend
          · rcases runs_bind.1 hend with ⟨_, _, _, _, _, hfail, _⟩ | ⟨_, _, hfail⟩ <;>
              obtain ⟨rfl, hr, -⟩ := runs_fail.1 hfail
            · cases hr
            · rfl
          · obtain ⟨_, rest', rfl, hwait⟩ := runs_ask_bind.1 hend
            obtain ⟨_, rest'', rfl, hpure⟩ := runs_ask_bind.1 hwait
            obtain ⟨rfl, -⟩ := runs_pure.1 hpure
            rfl
        simp [this, startCall]

/-- What the expected pods say of themselves, by ordinal. -/
private theorem tells_getElem {c : Cluster} {ns : String} {found : List Signature}
    (h : List.Forall₂ (Tells ns c es) (ordinals c) found) :
    found.length = (ordinals c).length ∧ ∀ (i : Nat) (hi : i < found.length), Tells ns c es i found[i] := by
  refine ⟨h.length_eq.symm, fun i hi ↦ ?_⟩
  have := h.get (h.length_eq ▸ hi) hi
  simpa [ordinals] using this

private theorem justified {c : Cluster} {pods : List PodObservation} {ns : String} {found : List Signature}
    {leader : Signature} {pod : Kube.Pod} (hnone : obstacle? c pods = none) (hsize : ¬c.spec.database.size < 0)
    (htells : List.Forall₂ (Tells ns c es) (ordinals c) found) (hleader : Signature.leader? found = some leader)
    (hpod : ⟨.call (.getPod ns leader.pod), .ok (some pod)⟩ ∈ es) : Justified c pods es ns leader.pod := by
  obtain ⟨hauto, hpaused, hne, hdown⟩ := obstacle?_eq_none.1 hnone
  obtain ⟨hmem, hbest⟩ := Signature.leader?_eq_some hleader
  obtain ⟨hlength, htells⟩ := tells_getElem htells
  obtain ⟨l, hl, rfl⟩ := List.getElem_of_mem hmem
  have hlt {i : Nat} : i ∈ ordinals c ↔ i < found.length := by simp [hlength, ordinals]
  refine ⟨hauto, hpaused, ?_, hdown, ⟨fun i ↦ (found[i]?.map (·.seqno)).getD 0, ?_, l, hlt.2 hl, (htells l hl).1, ?_⟩,
    pod, hpod⟩
  · have h0 : ¬c.spec.database.size.toInt < 0 := fun h ↦ hsize (Int32.lt_iff_toInt_lt.2 h)
    have h1 : c.spec.database.size.toInt ≠ 0 := fun h ↦ hne (Int32.toInt_inj.1 h)
    omega
  · intro i hi
    have hi := hlt.1 hi
    simpa [hi] using (htells i hi).2.2
  · intro i hi
    have hi := hlt.1 hi
    have := Signature.staysBefore_iff.1 (hbest found[i] (List.getElem_mem hi))
    rw [(htells l hl).2.1, (htells i hi).2.1] at this
    simp only [List.getElem?_eq_getElem, hi, hl, Option.map_some, Option.getD_some]
    omega

/-- A recovery gets past looking at the observations only if all expected pods are down, and past looking at the logs only
if all of them say something. -/
private theorem runs_recover {settings : Settings} {c : Cluster} {pods : List PodObservation}
    {r : Except Failure RecoveryOutcome} (h : (recover settings c pods).Runs m es r m') :
    calls es = [] ∨ ∃ ns, c.metadata.ns? = some ns ∧ obstacle? c pods = none ∧
      (calls es <+: (ordinals c).map (logCall ns c) ∨
        ∃ found leader es₁ es₂ m₁, es = es₁ ++ es₂ ∧ ¬c.spec.database.size < 0 ∧
          (signatures ns c (ordinals c)).Runs m es₁ (.ok (.ok found)) m₁ ∧ Signature.leader? found = some leader ∧
          (signal settings ns c leader).Runs m₁ es₂ r m') := by
  unfold recover at h
  cases hns : c.metadata.ns? with
  | none =>
    rw [hns] at h
    obtain ⟨rfl, -⟩ := runs_fail.1 h
    exact .inl rfl
  | some ns =>
    simp only [hns] at h
    split at h
    · obtain ⟨rfl, -⟩ := runs_pure.1 h
      exact .inl rfl
    · next hsome =>
      refine .inr ⟨ns, rfl, Option.eq_none_iff_forall_ne_some.2 hsome, ?_⟩
      split at h
      · rcases runs_bind.1 h with ⟨_, _, _, _, _, hthrow, _⟩ | ⟨_, _, hthrow⟩ <;>
          obtain ⟨rfl, hr, -⟩ := runs_throw.1 hthrow
        · cases hr
        · exact .inl List.nil_prefix
      · next hsize =>
        rcases runs_bind.1 h with ⟨es₁, es₂, reason | found, m₁, rfl, hfound, hrest⟩ | ⟨_, _, hfound⟩
        · obtain ⟨rfl, -⟩ := runs_pure.1 hrest
          exact .inl (by simpa using (runs_signatures hfound).1)
        · simp only at hrest
          split at hrest
          · obtain ⟨rfl, -⟩ := runs_pure.1 hrest
            exact .inl (by simpa using (runs_signatures hfound).1)
          · next leader hleader => exact .inr ⟨found, leader, es₁, es₂, m₁, rfl, hsize, hfound, hleader, hrest⟩
        · exact .inl (runs_signatures hfound).1

private theorem logCall_operation {ns : String} {c : Cluster} {is : List Nat} :
    ∀ call ∈ is.map (logCall ns c), call.operation ≠ .exec := by
  intro call hcall
  obtain ⟨i, -, rfl⟩ := List.mem_map.1 hcall
  exact nofun

/-- A recovery either runs no command at all, or it looks at all logs, looks for the pod and runs one there. -/
private theorem exec_cases {settings : Settings} {c : Cluster} {pods : List PodObservation}
    {r : Except Failure RecoveryOutcome} (h : (recover settings c pods).Runs m es r m') :
    (∀ call ∈ calls es, call.operation ≠ .exec) ∨ ∃ ns pod, c.metadata.ns? = some ns ∧
      calls es = (ordinals c).map (logCall ns c) ++ [.getPod ns pod, startCall ns pod] ∧
      Justified c pods es ns pod := by
  rcases runs_recover h with hcalls | ⟨ns, hns, hnone, hlogs | ⟨found, leader, es₁, es₂, m₁, rfl, hsize, hfound, hleader,
    hsignal⟩⟩
  · exact .inl (by simp [hcalls])
  · exact .inl fun call hcall ↦ logCall_operation call (hlogs.subset hcall)
  · obtain ⟨hcalls, htells⟩ := (runs_signatures hfound).2 found rfl
    rcases runs_signal hsignal with hget | ⟨hexec, pod, hpod⟩
    · refine .inl fun call hcall ↦ ?_
      rw [calls_append, hcalls, hget] at hcall
      rcases List.mem_append.1 hcall with hcall | hcall
      · exact logCall_operation call hcall
      · cases List.mem_singleton.1 hcall
        exact nofun
    · exact .inr ⟨ns, leader.pod, hns, by rw [calls_append, hcalls, hexec], justified hnone hsize
        (htells.imp fun _ _ ↦ Tells.mono (by simp)) hleader (List.mem_append_right es₁ hpod)⟩

/-- Whatever the surroundings answer, a pod is told to start a new cluster at most once, after a look at every expected
pod's log and at the pod itself, and only if all that justifies it was seen on the way. If any expected pod is not known
to be down, nothing is asked of the cluster at all. -/
theorem exec_only_if_justified {settings : Settings} {c : Cluster} {pods : List PodObservation}
    {r : Except Failure RecoveryOutcome} (h : (recover settings c pods).Runs m es r m') :
    (calls es).countP (·.operation = .exec) ≤ 1 ∧
      (∀ call ∈ calls es, call.operation = .exec → ∃ ns pod, c.metadata.ns? = some ns ∧ call = startCall ns pod ∧
        calls es = (ordinals c).map (logCall ns c) ++ [.getPod ns pod, startCall ns pod] ∧
        Justified c pods es ns pod) ∧
      ((∃ i ∈ ordinals c, ¬IsDown c pods i) → calls es = []) := by
  have hdown : (∃ i ∈ ordinals c, ¬IsDown c pods i) → calls es = [] := by
    rintro ⟨i, hi, hnot⟩
    rcases runs_recover h with hcalls | ⟨_, _, hnone, _⟩
    · exact hcalls
    · exact absurd ((obstacle?_eq_none.1 hnone).2.2.2 i hi) hnot
  rcases exec_cases h with hnone | ⟨ns, pod, hns, hcalls, hjustified⟩
  · have hzero : (calls es).countP (·.operation = .exec) = 0 := by simpa [List.countP_eq_zero] using hnone
    exact ⟨by omega, fun call hcall hop ↦ absurd hop (hnone call hcall), hdown⟩
  · have hzero : ((ordinals c).map (logCall ns c)).countP (·.operation = .exec) = 0 :=
      List.countP_eq_zero.2 fun call hcall ↦ by simpa using logCall_operation call hcall
    refine ⟨?_, fun call hcall hop ↦ ⟨ns, pod, hns, ?_, hcalls, hjustified⟩, hdown⟩
    · rw [hcalls, List.countP_append, hzero]
      exact Nat.le_refl 1
    · rw [hcalls] at hcall
      rcases List.mem_append.1 hcall with hcall | hcall
      · exact absurd hop (logCall_operation call hcall)
      · rcases List.mem_cons.1 hcall with rfl | hcall
        · cases hop
        · exact List.mem_singleton.1 hcall

/-- The log of a pod that waits with a banner, for a number in decimal. -/
def bannerWith (number : List Char) : String :=
  String.ofList (CrashLog.border ++ CrashLog.notice ++ CrashLog.seqnoMarker ++ number ++ ['\n'] ++ CrashLog.border)

/-- A pod that waits with a banner says what the banner says. -/
theorem signature_of_banner (ns : String) {c : Cluster} {i : Nat} {log : String} {seqno : Int}
    (hbanner : CrashLog.isBanner log = true) (hseqno : CrashLog.seqno (expectedPod c i) log = .ok seqno) :
    (signature ns c i).Runs m [⟨.call (logCall ns c i), .ok log⟩] (.ok (.ok ⟨expectedPod c i, i, seqno⟩)) m := by
  unfold signature
  refine runs_attempt_call_bind.2 ⟨.ok log, [], rfl, ?_⟩
  simp [hbanner, hseqno]

/-- A cluster of two pods that recovers by itself. -/
private def pair : Cluster where
  metadata := { Kube.ObjectMeta.empty with name := some "db", ns? := some "prod" }
  spec := ⟨⟨2, "image", true, ⟨none, "10Gi"⟩⟩, none, none, false, none⟩
  status := none

/-- Both pods run, and neither of them is ready. -/
private def pairDown : List PodObservation :=
  [⟨"db-pxc-0", true, false, [], none⟩, ⟨"db-pxc-1", true, false, [], none⟩]

/-- With the banners of both pods the second one, which has the latest transaction, is told to start. -/
theorem exec_only_if_justified_pair : ∃ es r, (recover .standard pair pairDown).Runs () es r () ∧
    startCall "prod" (expectedPod pair 1) ∈ calls es ∧
      Justified pair pairDown es "prod" (expectedPod pair 1) := by
  have hbanner (n : List Char) (hn : n = ['1', '2'] ∨ n = ['4', '5']) : CrashLog.isBanner (bannerWith n) = true := by
    rcases hn with rfl | rfl <;> (simp only [CrashLog.isBanner, bannerWith, String.toList_ofList]; decide +kernel)
  have hseqno (pod : String) (n : List Char) (hn : n = ['1', '2'] ∨ n = ['4', '5']) :
      CrashLog.seqno pod (bannerWith n) = .ok (if n = ['1', '2'] then 12 else 45) := by
    have htext : CrashLog.seqnoText? (bannerWith n).toList = some n := by
      rcases hn with rfl | rfl <;> (simp only [bannerWith, String.toList_ofList]; decide +kernel)
    rcases hn with rfl | rfl <;> (rw [CrashLog.seqno, htext]; rfl)
  have hfirst := signature_of_banner "prod" (m := ()) (c := pair) (i := 0) (hbanner _ (.inl rfl))
    (hseqno _ _ (.inl rfl))
  have hsecond := signature_of_banner "prod" (m := ()) (c := pair) (i := 1) (hbanner _ (.inr rfl))
    (hseqno _ _ (.inr rfl))
  have hsignatures : ∃ es found, (signatures "prod" pair (ordinals pair)).Runs () es (.ok (.ok found)) () ∧
      Signature.leader? found = some ⟨expectedPod pair 1, 1, 45⟩ := by
    refine ⟨_, _, runs_bind.2 (.inl ⟨_, _, _, _, rfl, hfirst, runs_bind.2 (.inl ⟨_, _, _, _, rfl,
      runs_bind.2 (.inl ⟨_, _, _, _, rfl, hsecond, runs_bind.2 (.inl ⟨_, _, _, _, rfl, runs_pure.2 ⟨rfl, rfl, rfl⟩,
        runs_pure.2 ⟨rfl, rfl, rfl⟩⟩)⟩), runs_pure.2 ⟨rfl, rfl, rfl⟩⟩)⟩), rfl⟩
  have hsignal : ∃ es r, (signal .standard "prod" pair ⟨expectedPod pair 1, 1, 45⟩).Runs () es r () ∧
      startCall "prod" (expectedPod pair 1) ∈ calls es := by
    refine ⟨_, _, runs_call_bind.2 (.inr ⟨some ⟨.empty, none, []⟩, _, rfl, runs_call_bind.2 (.inr ⟨⟨"", ""⟩, _, rfl,
      runs_ask_bind.2 ⟨(), _, rfl, runs_ask_bind.2 ⟨(), _, rfl, runs_pure.2 ⟨rfl, rfl, rfl⟩⟩⟩⟩)⟩), ?_⟩
    simp [startCall]
  obtain ⟨es₁, found, hfound, hleader⟩ := hsignatures
  obtain ⟨es₂, r, hrun, hstart⟩ := hsignal
  have hnone : obstacle? pair pairDown = none := by decide +kernel
  have hns : pair.metadata.ns? = some "prod" := rfl
  have hsize : ¬pair.spec.database.size < 0 := by decide
  have h : (recover .standard pair pairDown).Runs () (es₁ ++ es₂) r () := by
    simp only [recover, hns, hnone, hsize, if_false]
    refine runs_bind.2 (.inl ⟨es₁, es₂, .ok found, (), rfl, hfound, ?_⟩)
    simp only [hleader]
    exact hrun
  have hmem : startCall "prod" (expectedPod pair 1) ∈ calls (es₁ ++ es₂) := by simp [hstart]
  obtain ⟨ns, pod, -, hcall, -, hjustified⟩ := (exec_only_if_justified h).2.1 _ hmem rfl
  cases hcall
  exact ⟨_, r, h, hmem, hjustified⟩

end GaleraOperator.Recovery
