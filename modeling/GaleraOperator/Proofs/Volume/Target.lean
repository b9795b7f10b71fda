import GaleraOperator.Proofs.Undisturbed
import GaleraOperator.Proofs.Volume.Interruption
import GaleraOperator.Proofs.Volume.Shrinking

/-!
# What the end of a resize is judged by

The claims were asked for what the cluster asked for when the resize was started. A pass that finds the note of it
compares what they have with what the cluster asks for by now. As long as the owner asks for the same, that comes to the
same. But when the owner asks for less in between, a resize is completed whose claims have not grown, and when the owner
asks for more, it is waited for claims that have all they were asked for.
-/

namespace GaleraOperator.Volume

open Kube Pass

variable {σ : Type} {m m' : σ} {es : List Exchange} {s t u : Store} {ns : String} {c : Cluster} {settings : Settings}
  {since : Instant} {requested : Nat} {r : Except Failure ResizeOutcome}

/-- A claim asks for so many bytes, in whole allocation units. -/
def AsksFor (bytes : Nat) (claim : Claim) : Prop :=
  ∃ quantity, claim.request? = some quantity ∧ Quantity.alignedBytes quantity = .ok bytes

/-- A claim has what it asks for. -/
def HasGrown (claim : Claim) : Prop := ∃ bytes, AsksFor bytes claim ∧ capacityBytes claim = .ok (some bytes)

/-- What a pass has found when it judges a resize that was noted: since when it is under way, how many bytes the cluster
asks for by now, and that none of the claims with a pod has failed. -/
structure Judges (s : Store) (ns : String) (c : Cluster) (since : Instant) (requested : Nat) : Prop where
  decides : ∃ actual configured configuredBytes, Decides s ns c actual configured configuredBytes requested
  noted : ResizeState.ofCluster c = .ok (.inProgress since)
  unfailed : ∀ claim ∈ usedClaims s ns c, ∀ note,
    progressOf s ns requested since claim ≠ .ok (claim.name, .failed note)

/-- All claims with a pod have what they ask for. -/
def AllGrown (s : Store) (ns : String) (c : Cluster) : Prop := ∀ claim ∈ usedClaims s ns c, HasGrown claim

/-- All claims with a pod have the requested bytes. -/
def AllHave (s : Store) (ns : String) (c : Cluster) (requested : Nat) : Prop :=
  ∀ claim ∈ usedClaims s ns c, capacityBytes claim = .ok (some requested)

/-- No claim with a pod moves. -/
def NoneMoves (s : Store) (ns : String) (c : Cluster) (since : Instant) (requested : Nat) : Prop :=
  ∀ claim ∈ usedClaims s ns c, progressOf s ns requested since claim ≠ .ok (claim.name, .inProgress)

/-- The end of a resize is judged by what the claims were asked for: it is brought to its end only if all of them have
that, and it is not waited for once they do. -/
structure EndsAsAsked (ns : String) (c : Cluster) (since : Instant) (requested : Nat) (before : Store)
    (es : List Exchange) (r : Except Failure ResizeOutcome) (after : Store) : Prop where
  completes : .orphanStatefulSet ns (c.tierSet .database) ∈ calls es →
    (∃ stored, after.clusters.find? ns c.name = some stored ∧ stored.resizeMark? = none) → AllGrown before ns c
  ends : AllGrown before ns c → NoneMoves before ns c since requested → (∀ claim, .replaceClaim ns claim ∉ calls es) →
    r ≠ .ok .waiting

/-- A pass over a resize of which no claim has failed completes it if all claims have what the cluster asks for by now,
and leaves everything as it is otherwise, if no call is refused. -/
theorem runs_reconcile_of_judges (h : (reconcile settings c).Runs m es r m') (hs : s.Serves es t)
    (hgranted : Store.Granted es) (hns : c.metadata.ns? = some ns) (hstored : s.clusters.find? ns c.name = some c)
    (hjudges : Judges s ns c since requested) :
    (AllHave s ns c requested ∧ r = .ok .completed ∧ .orphanStatefulSet ns (c.tierSet .database) ∈ calls es ∧
        ∃ stored, t.clusters.find? ns c.name = some stored ∧ stored.resizeMark? = none) ∨
      (¬AllHave s ns c requested ∧ r = .ok .waiting ∧ t = s ∧ Reads es) := by
  obtain ⟨⟨actual, configured, configuredBytes, hdecides⟩, hnoted, hunfailed⟩ := hjudges
  have hmarked : c.resizeMark? ≠ none := by
    intro hnone
    cases (ofCluster_of_unmarked hnone).symm.trans hnoted
  cases (runs_reconcile h hs hns hstored).2 with
  | undecided reads plain why =>
    rcases why with hrefused | hnone
    · exact absurd hrefused hgranted.not_refused
    · exact absurd hdecides (hnone _ _ _ _)
  | unreadable reads fault => cases fault.symm.trans hnoted
  | noChange _ unmarked | shrink _ unmarked | start _ unmarked => exact absurd unmarked hmarked
  | @followUp first last _ _ _ _ _ requested' since' decides marked reads followUp quiet =>
    obtain rfl : requested = requested' := Except.ok.inj (hdecides.requested_eq.symm.trans decides.requested_eq)
    cases marked.symm.trans hnoted
    obtain ⟨-, hlast⟩ := Store.granted_append.1 hgranted
    cases followUp with
    | failed reads' why =>
      rcases why with hrefused | herror
      · exact absurd hrefused hlast.not_refused
      · obtain ⟨claim, hclaim, hfault⟩ := mapM_eq_error herror
        obtain ⟨_, hprogress⟩ := hdecides.progressOf_ok since hclaim
        cases hfault.symm.trans hprogress
    | givenUp found failed gaveUp same =>
      obtain ⟨⟨claim, hclaim, note, hnote⟩, -⟩ := (advance_eq_failed_iff found).1 ⟨_, failed⟩
      exact absurd hnote (hunfailed claim hclaim note)
    | waiting found going left reads' => exact .inr ⟨left, rfl, rfl, reads_append.2 ⟨reads, reads'⟩⟩
    | stopped grown refused => exact absurd refused hlast.not_refused
    | completed grown reads' ends unmarked same =>
      refine .inl ⟨grown, rfl, by simp, _, unmarked, ?_⟩
      unfold markEnded
      split
      · exact Cluster.resizeMark?_withoutResizeMark c
      · next hnone => exact Option.not_isSome_iff_eq_none.1 hnone

/-- Where the claims ask for what the cluster asks for by now, having what they ask for comes to having that. -/
theorem allGrown_iff_allHave (h : ∀ claim ∈ usedClaims s ns c, AsksFor requested claim) :
    AllGrown s ns c ↔ AllHave s ns c requested := by
  refine forall₂_congr fun claim hclaim ↦ ?_
  obtain ⟨quantity, hquantity, hbytes⟩ := h claim hclaim
  constructor
  · rintro ⟨bytes, ⟨quantity', hquantity', hbytes'⟩, hcapacity⟩
    obtain rfl := Option.some.inj (hquantity.symm.trans hquantity')
    obtain rfl : requested = bytes := Except.ok.inj (hbytes.symm.trans hbytes')
    exact hcapacity
  · exact fun hcapacity ↦ ⟨requested, ⟨quantity, hquantity, hbytes⟩, hcapacity⟩

/-- The end of a resize is judged by what the claims were asked for exactly if that comes to the same as judging it by
what the cluster asks for by now: claims that have the latter have the former, and claims that have the former, and of
which none moves any more, have the latter. So it is where the owner has not asked for another amount since. -/
theorem endsAsAsked_iff (h : (reconcile settings c).Runs m es r m') (hs : s.Serves es t) (hgranted : Store.Granted es)
    (hns : c.metadata.ns? = some ns) (hstored : s.clusters.find? ns c.name = some c)
    (hjudges : Judges s ns c since requested) :
    (r = .ok .completed ↔ AllHave s ns c requested) ∧ (r = .ok .waiting ↔ ¬AllHave s ns c requested) ∧
      (EndsAsAsked ns c since requested s es r t ↔
        (AllHave s ns c requested → AllGrown s ns c) ∧
          (AllGrown s ns c → NoneMoves s ns c since requested → AllHave s ns c requested)) ∧
      ((∀ claim ∈ usedClaims s ns c, AsksFor requested claim) → EndsAsAsked ns c since requested s es r t) := by
  have hcases := runs_reconcile_of_judges h hs hgranted hns hstored hjudges
  have hiff : EndsAsAsked ns c since requested s es r t ↔ (AllHave s ns c requested → AllGrown s ns c) ∧
      (AllGrown s ns c → NoneMoves s ns c since requested → AllHave s ns c requested) := by
    rcases hcases with ⟨hhave, rfl, horphan, hunmarked⟩ | ⟨hlacks, rfl, rfl, hreads⟩
    · refine ⟨fun hends ↦ ?_, fun ⟨hgrown, _⟩ ↦ ?_⟩
      · exact ⟨fun _ ↦ hends.completes horphan hunmarked, fun _ _ ↦ hhave⟩
      · exact ⟨fun _ _ ↦ hgrown hhave, fun _ _ _ ↦ nofun⟩
    · refine ⟨fun hends ↦ ?_, fun ⟨_, hhave⟩ ↦ ?_⟩
      · refine ⟨fun hhave ↦ absurd hhave hlacks, fun hgrown hstill ↦ ?_⟩
        exact absurd rfl (hends.ends hgrown hstill (not_replaceClaim_of_reads hreads))
      · refine ⟨fun horphan ↦ ?_, fun hgrown hstill _ ↦ absurd (hhave hgrown hstill) hlacks⟩
        cases hreads _ horphan
  refine ⟨?_, ?_, hiff, fun hasks ↦ ?_⟩
  · rcases hcases with ⟨hhave, rfl, -⟩ | ⟨hlacks, rfl, -⟩
    · exact iff_of_true rfl hhave
    · exact iff_of_false nofun hlacks
  · rcases hcases with ⟨hhave, rfl, -⟩ | ⟨hlacks, rfl, -⟩
    · exact iff_of_false nofun (not_not_intro hhave)
    · exact iff_of_true rfl hlacks
  · have hsame := allGrown_iff_allHave hasks
    exact hiff.2 ⟨hsame.2, fun hgrown _ ↦ hsame.1 hgrown⟩

/-- Passes over the volumes of a stored cluster, one after the other, while nobody else changes anything and no call is
refused; with what they come to. -/
inductive Passes (settings : Settings) (c : Cluster) (m : σ) :
    Store → List (Except Failure ResizeOutcome) → Store → Prop where
  | none (s : Store) : Passes settings c m s [] s
  | next {s t u : Store} {es : List Exchange} {r : Except Failure ResizeOutcome}
      {rs : List (Except Failure ResizeOutcome)} (run : (reconcile settings c).Runs m es r m) (serves : s.Serves es t)
      (granted : Store.Granted es) (rest : Passes settings c m t rs u) : Passes settings c m s (r :: rs) u

/-- A resize that is waited for because the claims do not have what the cluster asks for by now is waited for on and on,
whatever the claims were asked for. -/
theorem waits_on {rs : List (Except Failure ResizeOutcome)} (h : Passes settings c m s rs u)
    (hns : c.metadata.ns? = some ns) (hstored : s.clusters.find? ns c.name = some c)
    (hjudges : Judges s ns c since requested) (hlacks : ¬AllHave s ns c requested) :
    u = s ∧ ∀ r ∈ rs, r = .ok .waiting := by
  induction h with
  | none s => exact ⟨rfl, List.forall_mem_nil _⟩
  | next run serves granted rest ih =>
    rcases runs_reconcile_of_judges run serves granted hns hstored hjudges with
      ⟨hhave, -⟩ | ⟨-, rfl, rfl, -⟩
    · exact absurd hhave hlacks
    · obtain ⟨rfl, hwaits⟩ := ih hstored hjudges hlacks
      exact ⟨rfl, List.forall_mem_cons.2 ⟨rfl, hwaits⟩⟩

/-- The growing claim after it was asked for more. -/
private def askedClaim : Claim := growingClaim.withRequest "2Gi"

/-- The claim after it has grown. -/
private def grownClaim : Claim := { askedClaim with status := some ⟨some (.ofList [("storage", "2Gi")]), none, []⟩ }

/-- The growing cluster after its resize was started and its owner has asked for another amount. -/
private def edited (quantity : String) : Cluster := growingMarked.withStorage quantity

/-- What a server holds of the edited cluster. -/
private def editedStore (quantity : String) (claim : Claim) : Store :=
  { growingStore with clusters := [edited quantity], claims := [claim] }

/-- A pass starts the resize: the claim is asked for what the cluster asks for then. -/
private theorem runs_start_growing : ∃ es, (reconcile .standard growing).Runs () es (.ok (.started 1)) () ∧
    growingStore.Serves es (editedStore "2Gi" askedClaim) := by
  have hcapacity : capacityBytes growingClaim = .ok (some 1073741824) := rfl
  have hgrow : (growClaim .standard "prod" growing "1Gi" 2147483648 growingClaim : Pass Unit Bool).Runs () _
      (.ok true) () :=
    runs_growClaim_ok hcapacity (by decide) rfl
  have hrun := runs_reconcile_growing (r := .ok (.started 1)) (runs_bind.2 (.inl ⟨_, _, [true], (), rfl,
    runs_mapM_cons.2 (.inl ⟨_, [], true, (), .ok [], rfl, hgrow, runs_mapM_nil.2 ⟨rfl, rfl, rfl⟩, rfl⟩),
    runs_ask_bind.2 ⟨(), [], rfl, runs_pure.2 ⟨rfl, rfl, rfl⟩⟩⟩))
  exact ⟨_, hrun, serves_growingOpening.2 (Store.serves_ok.2 ⟨rfl, _, rfl, rfl⟩)⟩

private theorem volumes_edited {quantity : String} {claim : Claim} (h : claim.metadata = growingClaim.metadata) :
    dataClaims (editedStore quantity claim) "prod" (edited quantity) = [claim] ∧
      usedClaims (editedStore quantity claim) "prod" (edited quantity) = [claim] :=
  volumes_of_onlyClaim rfl h rfl rfl

/-- What a pass judges after the owner has edited the cluster. -/
private theorem judges_edited {quantity : String} {claim : Claim} {capacity : Nat} {progress : ClaimProgress}
    (hclaim : claim.metadata = growingClaim.metadata) (hcapacity : capacityBytes claim = .ok (some capacity))
    (hrequested : Quantity.alignedBytes quantity = .ok requested)
    (hprogress : claimProgress claim requested [] noon = .ok progress) (hunfailed : ∀ note, progress ≠ .failed note) :
    Judges (editedStore quantity claim) "prod" (edited quantity) noon requested where
  decides := by
    refine ⟨capacity, "1Gi", 1073741824, ?_, ?_, ⟨growingSet, rfl, rfl⟩, decides_growing.configuredBytes_eq, hrequested⟩
    · rw [(volumes_edited hclaim).2]
      exact List.cons_ne_nil _ _
    · rw [(volumes_edited hclaim).1]
      simp only [leastCapacity, List.mapM_cons, hcapacity]
      rfl
  noted := rfl
  unfailed := by
    rw [(volumes_edited hclaim).2]
    refine List.forall_mem_singleton.2 fun note hnote ↦ ?_
    have hfailed := (progressOf_eq_ok.1 hnote).2
    change claimProgress claim requested [] noon = _ at hfailed
    exact hunfailed note (Except.ok.inj (hprogress.symm.trans hfailed))

private theorem metadata_askedClaim : askedClaim.metadata = growingClaim.metadata := rfl

private theorem metadata_grownClaim : grownClaim.metadata = growingClaim.metadata := rfl

/-- After the owner has asked for less again, the claim has what the cluster asks for, but not what it asks for. -/
private theorem lowered_asked : Judges (editedStore "1Gi" askedClaim) "prod" (edited "1Gi") noon 1073741824 ∧
    AllHave (editedStore "1Gi" askedClaim) "prod" (edited "1Gi") 1073741824 ∧
    ¬AllGrown (editedStore "1Gi" askedClaim) "prod" (edited "1Gi") := by
  have hcapacity : capacityBytes askedClaim = .ok (some 1073741824) := rfl
  refine ⟨judges_edited rfl hcapacity (by decide +kernel) (claimProgress_eq_done.2 hcapacity) nofun, ?_, ?_⟩
  · rw [AllHave, (volumes_edited metadata_askedClaim).2]
    exact List.forall_mem_singleton.2 hcapacity
  · rw [AllGrown, (volumes_edited metadata_askedClaim).2]
    intro hgrown
    obtain ⟨bytes, ⟨quantity, hquantity, hbytes⟩, hbytes'⟩ := List.forall_mem_singleton.1 hgrown
    have hasked : askedClaim.request? = some "2Gi" := by decide +kernel
    obtain rfl := Option.some.inj (hasked.symm.trans hquantity)
    cases hcapacity.symm.trans hbytes'
    exact absurd hbytes (by decide +kernel)

/-- After the owner has asked for even more, the claim has what it asks for, but not what the cluster asks for. -/
private theorem raised_grown : Judges (editedStore "3Gi" grownClaim) "prod" (edited "3Gi") noon 3221225472 ∧
    ¬AllHave (editedStore "3Gi" grownClaim) "prod" (edited "3Gi") 3221225472 ∧
    AllGrown (editedStore "3Gi" grownClaim) "prod" (edited "3Gi") ∧
    NoneMoves (editedStore "3Gi" grownClaim) "prod" (edited "3Gi") noon 3221225472 := by
  have hcapacity : capacityBytes grownClaim = .ok (some 2147483648) := rfl
  have hpending : claimProgress grownClaim 3221225472 [] noon = .ok .pending := by decide +kernel
  refine ⟨judges_edited rfl hcapacity (by decide +kernel) hpending nofun, ?_, ?_, ?_⟩
  · rw [AllHave, (volumes_edited metadata_grownClaim).2]
    intro hhave
    cases hcapacity.symm.trans (hhave grownClaim (List.mem_singleton_self _))
  · rw [AllGrown, (volumes_edited metadata_grownClaim).2]
    exact List.forall_mem_singleton.2 ⟨2147483648, ⟨"2Gi", by decide +kernel, by decide +kernel⟩, hcapacity⟩
  · rw [NoneMoves, (volumes_edited metadata_grownClaim).2]
    refine List.forall_mem_singleton.2 fun hmoves ↦ ?_
    have hmoves' := (progressOf_eq_ok.1 hmoves).2
    change claimProgress grownClaim 3221225472 [] noon = _ at hmoves'
    cases hpending.symm.trans hmoves'

/-- A pass over the edited cluster at a server that refuses nothing. -/
private theorem runs_edited (quantity : String) (claim : Claim) : ∃ es r t,
    (reconcile .standard (edited quantity)).Runs () es r () ∧ (editedStore quantity claim).Serves es t ∧
      Store.Granted es := by
  have hrun := runs_courseIn (reconcile .standard (edited quantity)) (Store.surroundings noon) ()
    (editedStore quantity claim)
  obtain ⟨hserves, hgranted⟩ := Store.granted_of_gives (Interaction.gives_course (Store.surroundings noon)
    ((reconcile .standard (edited quantity)).run.run ()) (editedStore quantity claim))
  exact ⟨_, _, _, hrun, hserves, hgranted⟩

/-- The owner of a cluster of which a resize was started asks for less again, and the resize is completed although the
claim has not grown. Or the owner asks for even more, and the claim is waited for although it has all that it was asked
for: by the next pass and by every later one. -/
theorem not_endsAsAsked_edited :
    (∃ es, (reconcile .standard growing).Runs () es (.ok (.started 1)) () ∧
      growingStore.Serves es (editedStore "2Gi" askedClaim)) ∧
    (∃ es t, (reconcile .standard (edited "1Gi")).Runs () es (.ok .completed) () ∧
      (editedStore "1Gi" askedClaim).Serves es t ∧
      Judges (editedStore "1Gi" askedClaim) "prod" (edited "1Gi") noon 1073741824 ∧
      ¬EndsAsAsked "prod" (edited "1Gi") noon 1073741824 (editedStore "1Gi" askedClaim) es (.ok .completed) t) ∧
    (∃ es, (reconcile .standard (edited "3Gi")).Runs () es (.ok .waiting) () ∧
      (editedStore "3Gi" grownClaim).Serves es (editedStore "3Gi" grownClaim) ∧
      Judges (editedStore "3Gi" grownClaim) "prod" (edited "3Gi") noon 3221225472 ∧
      ¬EndsAsAsked "prod" (edited "3Gi") noon 3221225472 (editedStore "3Gi" grownClaim) es (.ok .waiting)
        (editedStore "3Gi" grownClaim)) ∧
    ∀ rs t, Passes .standard (edited "3Gi") () (editedStore "3Gi" grownClaim) rs t → ∀ r ∈ rs, r = .ok .waiting := by
  refine ⟨runs_start_growing, ?_, ?_, fun rs t hpasses ↦ ?_⟩
  · obtain ⟨hjudges, hhave, hnot⟩ := lowered_asked
    obtain ⟨es, r, t, hrun, hserves, hgranted⟩ := runs_edited "1Gi" askedClaim
    rcases runs_reconcile_of_judges hrun hserves hgranted rfl rfl hjudges with
      ⟨-, rfl, horphan, hunmarked⟩ | ⟨hlacks, -⟩
    · exact ⟨es, t, hrun, hserves, hjudges, fun hends ↦ hnot (hends.completes horphan hunmarked)⟩
    · exact absurd hhave hlacks
  · obtain ⟨hjudges, hlacks, hgrown, hstill⟩ := raised_grown
    obtain ⟨es, r, t, hrun, hserves, hgranted⟩ := runs_edited "3Gi" grownClaim
    rcases runs_reconcile_of_judges hrun hserves hgranted rfl rfl hjudges with ⟨hhave, -⟩ | ⟨-, rfl, rfl, hreads⟩
    · exact absurd hhave hlacks
    · refine ⟨es, hrun, hserves, hjudges, fun hends ↦ ?_⟩
      exact hends.ends hgrown hstill (not_replaceClaim_of_reads hreads) rfl
  · obtain ⟨hjudges, hlacks, -⟩ := raised_grown
    exact (waits_on hpasses rfl rfl hjudges hlacks).2

/-- A pass over the cluster that asks for less again completes the resize; one over the cluster that asks for even more
does not. -/
theorem endsAsAsked_iff_edited :
    (∃ es r t, (reconcile .standard (edited "1Gi")).Runs () es r () ∧ (editedStore "1Gi" askedClaim).Serves es t ∧
      r = .ok .completed) ∧
    ∃ es r t, (reconcile .standard (edited "3Gi")).Runs () es r () ∧ (editedStore "3Gi" grownClaim).Serves es t ∧
      r = .ok .waiting := by
  constructor
  · obtain ⟨hjudges, hhave, -⟩ := lowered_asked
    obtain ⟨es, r, t, hrun, hserves, hgranted⟩ := runs_edited "1Gi" askedClaim
    obtain ⟨hcompleted, -⟩ := endsAsAsked_iff hrun hserves hgranted rfl rfl hjudges
    exact ⟨es, r, t, hrun, hserves, hcompleted.2 hhave⟩
  · obtain ⟨hjudges, hlacks, -⟩ := raised_grown
    obtain ⟨es, r, t, hrun, hserves, hgranted⟩ := runs_edited "3Gi" grownClaim
    obtain ⟨-, hwaiting, -⟩ := endsAsAsked_iff hrun hserves hgranted rfl rfl hjudges
    exact ⟨es, r, t, hrun, hserves, hwaiting.2 hlacks⟩

end GaleraOperator.Volume
