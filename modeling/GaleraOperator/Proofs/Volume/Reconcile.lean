import GaleraOperator.Proofs.Volume.Progress

/-!
# A pass over the volumes

Every way in which one pass over the volumes of a cluster can go, with what the server holds afterwards. What a pass
decides is told by what the server holds before it and by the note on the cluster that the pass was given; the cluster
that the server holds may be another version of that.
-/

namespace GaleraOperator.Volume

open Kube Pass

variable {σ : Type} {m m' : σ} {es : List Exchange} {s t : Store} {ns : String} {c held : Cluster} {requested : Nat}
  {settings : Settings} {configured target : String} {claims : List Claim}

/-- What a pass has read when it comes to a decision. -/
structure Decides (s : Store) (ns : String) (c : Cluster) (actual : Nat) (configured : String)
    (configuredBytes requested : Nat) : Prop where
  used : usedClaims s ns c ≠ []
  least : leastCapacity (dataClaims s ns c) = .ok (some actual)
  template : ∃ set, s.statefulSets.find? ns (c.tierSet .database) = some set ∧
    set.templateRequest? dataVolume = some configured
  configuredBytes_eq : Quantity.alignedBytes configured = .ok configuredBytes
  requested_eq : Quantity.alignedBytes c.requestedStorage = .ok requested

/-- What a pass has found at a server before it reads the amounts that it compares. -/
structure Finds (s : Store) (ns : String) (c : Cluster) (actual : Nat) (configured : String) : Prop where
  used : usedClaims s ns c ≠ []
  least : leastCapacity (dataClaims s ns c) = .ok (some actual)
  template : ∃ set, s.statefulSets.find? ns (c.tierSet .database) = some set ∧
    set.templateRequest? dataVolume = some configured

theorem Decides.finds {actual configuredBytes : Nat} (h : Decides s ns c actual configured configuredBytes requested) :
    Finds s ns c actual configured :=
  ⟨h.used, h.least, h.template⟩

/-- A pass that decides on something decides on what it has found. -/
theorem Decides.eq_of_finds {actual actual' configuredBytes : Nat} {configured' : String}
    (h : Decides s ns c actual configured configuredBytes requested) (hfinds : Finds s ns c actual' configured') :
    actual' = actual ∧ configured' = configured := by
  obtain ⟨set, hset, hconfigured⟩ := h.template
  obtain ⟨set', hset', hconfigured'⟩ := hfinds.template
  obtain rfl := Option.some.inj (hset.symm.trans hset')
  exact ⟨Option.some.inj (Except.ok.inj (hfinds.least.symm.trans h.least)),
    Option.some.inj (hconfigured'.symm.trans hconfigured)⟩

/-- The capacities of claims are readable if there is a least one of them. -/
theorem capacityBytes_of_leastCapacity {least : Option Nat} {claim : Claim} (h : leastCapacity claims = .ok least)
    (hclaim : claim ∈ claims) : ∃ capacity, capacityBytes claim = .ok capacity := by
  obtain ⟨capacities, hcapacities, -⟩ := map_eq_ok_iff.1 h
  exact exists_eq_ok_of_mapM_eq_ok hcapacities hclaim

/-- The least capacity is that of a claim. -/
theorem exists_capacityBytes_of_leastCapacity {actual : Nat} (h : leastCapacity claims = .ok (some actual)) :
    ∃ claim ∈ claims, capacityBytes claim = .ok (some actual) := by
  obtain ⟨capacities, hcapacities, hleast⟩ := map_eq_ok_iff.1 h
  have hmem : actual ∈ capacities.reduceOption := List.min?_mem hleast
  exact (mem_of_mapM_eq_ok hcapacities).1 (List.reduceOption_mem_iff.1 hmem)

/-- The least capacity has a text. -/
theorem ofBytes_of_leastCapacity {actual : Nat} (h : leastCapacity claims = .ok (some actual)) :
    ∃ text, Quantity.ofBytes actual = .ok text := by
  obtain ⟨claim, -, hclaim⟩ := exists_capacityBytes_of_leastCapacity h
  unfold capacityBytes at hclaim
  split at hclaim
  · cases hclaim
  · obtain ⟨n, hquantity, hn⟩ := map_eq_ok_iff.1 hclaim
    obtain rfl := Option.some.inj hn
    exact Quantity.ofBytes_of_alignedBytes hquantity

/-- The capacities of data claims are readable if a pass comes to a decision. -/
theorem Decides.capacityBytes_ok {actual configuredBytes : Nat} {claim : Claim}
    (h : Decides s ns c actual configured configuredBytes requested) (hclaim : claim ∈ usedClaims s ns c) :
    ∃ capacity, capacityBytes claim = .ok capacity :=
  capacityBytes_of_leastCapacity h.least (List.mem_of_mem_filter hclaim)

/-- What starting a resize comes to. -/
inductive Start (ns : String) (c held : Cluster) (configured target : String) (requested : Nat) (claims : List Claim)
    (s : Store) : List Exchange → Except Failure ResizeOutcome → Store → Prop where
  /-- The note could not be written. -/
  | refused {es : List Exchange} {f : Failure} (refused : Store.Refused (α := Unit) es (.error f))
      (cluster : ∀ call ∈ calls es, IsClusterCall ns c.name call) :
      Start ns c held configured target requested claims s es (.error f) s
  /-- The note was written, and then claims were asked to grow. -/
  | marked {first last rest : List Exchange} {time : Instant} {r : Except Failure (List Bool)} {t : Store}
      (clock : ⟨.now, time⟩ ∈ first)
      (written : ⟨.call (.replaceCluster ns (held.withResizeMark time.toSecondsText)),
        .ok (held.withResizeMark time.toSecondsText)⟩ ∈ first)
      (cluster : ∀ call ∈ calls first, IsClusterCall ns c.name call)
      (growth : Growth ns c configured target requested claims
        { s with clusters := s.clusters.put (held.withResizeMark time.toSecondsText) } last r t)
      (quiet : calls rest = []) :
      Start ns c held configured target requested claims s (first ++ last ++ rest)
        (r.map fun asked ↦ .started (asked.count true)) t

theorem runs_start {r : Except Failure ResizeOutcome}
    (h : (start settings ns c claims configured requested).Runs m es r m') (hs : s.Serves es t)
    (hheld : s.clusters.find? ns c.name = some held) (htarget : Quantity.ofBytes requested = .ok target) :
    m' = m ∧ Start ns c held configured target requested claims s es r t := by
  obtain ⟨time, rest, rfl, hrest⟩ := runs_ask_bind.1 h
  obtain ⟨u, hu, hs⟩ := hs
  obtain rfl : u = s := hu
  rcases runs_bind.1 hrest with ⟨es₁, es₂, _, m₁, rfl, hmark, hafter⟩ | ⟨f, rfl, hmark⟩
  · obtain ⟨v, hs₁, hs₂⟩ := Store.serves_append.1 hs
    obtain ⟨hresult, rfl, hcalls⟩ := changeCluster_result hmark hs₁
    have hcluster : ∀ call ∈ calls (⟨.now, time⟩ :: es₁), IsClusterCall ns c.name call := by
      simpa using fun call hcall ↦ (hcalls call hcall).isClusterCall
    cases hresult with
    | refused hrefused => exact absurd hrefused Store.not_refused_ok
    | unchanged stored nothing => cases nothing
    | changed stored changes written =>
      obtain rfl := Option.some.inj (hheld.symm.trans stored)
      cases changes
      have hheld' : (u.clusters.put (held.withResizeMark time.toSecondsText)).find? ns c.name =
          some (held.withResizeMark time.toSecondsText) := Objects.find?_put_of_find? hheld rfl
      have hclock : ⟨.now, time⟩ ∈ (⟨.now, time⟩ :: es₁ : List Exchange) := List.mem_cons_self ..
      have hwritten := List.mem_cons_of_mem (⟨.now, time⟩ : Exchange) written
      rcases runs_bind.1 hafter with ⟨es₃, es₄, asked, m₂, rfl, hgrow, hmeasure⟩ | ⟨f, rfl, hgrow⟩
      · obtain ⟨w, hs₃, hs₄⟩ := Store.serves_append.1 hs₂
        obtain ⟨rfl, hgrowth⟩ := runs_growClaims hgrow hs₃ hheld' htarget
        obtain ⟨reply, rest, rfl, hend⟩ := runs_ask_bind.1 hmeasure
        obtain ⟨rfl, rfl, rfl⟩ := runs_pure.1 hend
        obtain ⟨x, hx, hs₅⟩ := hs₄
        obtain rfl : x = w := hx
        obtain rfl : t = x := hs₅
        refine ⟨rfl, ?_⟩
        have hquiet : calls [⟨.measure ns c.name (.resized "started"), reply⟩] = [] := rfl
        have hmarked := Start.marked hclock hwritten hcluster hgrowth hquiet
        simpa [Except.map] using hmarked
      · obtain ⟨rfl, hgrowth⟩ := runs_growClaims hgrow hs₂ hheld' htarget
        have hmarked := Start.marked hclock hwritten hcluster hgrowth calls_nil
        exact ⟨rfl, by simpa [Except.map] using hmarked⟩
  · obtain ⟨rfl, -, hcalls, ⟨hrefused, rfl⟩ | ⟨hr, _⟩⟩ :=
      changeCluster_held hmark hs (by rintro _ ⟨⟩; rfl) hheld
    · exact ⟨rfl, .refused hrefused.cons.error (by simpa using hcalls)⟩
    · cases hr

/-- What refusing to make volumes smaller comes to. -/
inductive Shrink (ns : String) (c held : Cluster) (configured : String) (s : Store) :
    List Exchange → Except Failure ResizeOutcome → Store → Prop where
  | refused {es : List Exchange} {f : Failure} (refused : Store.Refused (α := Unit) es (.error f)) :
      Shrink ns c held configured s es (.error f) s
  | reset {es : List Exchange} {f : Failure} {t : Store}
      (verdict : f.isVerdict = false ∨ ∃ requested actual, f = .error (.shrink requested actual))
      (stored : t.clusters.find? ns c.name = some ((setStorage configured held).getD held))
      (same : s.SameButClusters t) : Shrink ns c held configured s es (.error f) t

theorem runs_refuseShrink {actual : Nat} {r : Except Failure ResizeOutcome}
    (h : (refuseShrink settings ns c configured requested actual).Runs m es r m') (hs : s.Serves es t)
    (hheld : s.clusters.find? ns c.name = some held) :
    m' = m ∧ Shrink ns c held configured s es r t ∧ ∀ call ∈ calls es, IsClusterCall ns c.name call := by
  rcases runs_bind.1 h with ⟨es₁, es₂, _, m₁, rfl, hstorage, hrest⟩ | ⟨f, rfl, hstorage⟩
  · obtain ⟨u, hs₁, hs₂⟩ := Store.serves_append.1 hs
    obtain ⟨rfl, hsame, hcalls, ⟨hrefused, _⟩ | ⟨_, hheld'⟩⟩ :=
      changeCluster_held hstorage hs₁ (fun _ ↦ setStorage_keeps) hheld
    · exact absurd hrefused Store.not_refused_ok
    have hverdict : es₂ = [] ∧ m' = m₁ ∧ ∃ f, r = .error f ∧
        (f.isVerdict = false ∨ ∃ requested actual, f = .error (.shrink requested actual)) := by
      rcases runs_orOverflow_bind.1 hrest with ⟨o, _, rfl, rfl, rfl⟩ | ⟨requestedText, _, hactual⟩
      · exact ⟨rfl, rfl, _, rfl, .inl rfl⟩
      · rcases runs_orOverflow_bind.1 hactual with ⟨o, _, rfl, rfl, rfl⟩ | ⟨actualText, _, hfail⟩
        · exact ⟨rfl, rfl, _, rfl, .inl rfl⟩
        · obtain ⟨rfl, rfl, rfl⟩ := runs_fail.1 hfail
          exact ⟨rfl, rfl, _, rfl, .inr ⟨_, _, rfl⟩⟩
    obtain ⟨rfl, rfl, f, rfl, hf⟩ := hverdict
    obtain rfl : t = u := hs₂
    exact ⟨rfl, .reset hf hheld' hsame, by simpa using hcalls⟩
  · obtain ⟨rfl, -, hcalls, ⟨hrefused, rfl⟩ | ⟨hr, _⟩⟩ :=
      changeCluster_held hstorage hs (fun _ ↦ setStorage_keeps) hheld
    · exact ⟨rfl, .refused hrefused.error, hcalls⟩
    · cases hr

/-- What a pass over the volumes of a cluster comes to. -/
inductive Reconciled (ns : String) (c held : Cluster) (s : Store) :
    List Exchange → Except Failure ResizeOutcome → Store → Prop where
  /-- There is nothing to decide about, or the pass failed before it could. -/
  | undecided {es : List Exchange} {r : Except Failure ResizeOutcome} (reads : Reads es)
      (plain : r = .ok .noChange ∨ ∃ f, r = .error f ∧ f.isVerdict = false)
      (why : Store.Refused es r ∨ ∀ actual configured configuredBytes requested,
        ¬Decides s ns c actual configured configuredBytes requested) : Reconciled ns c held s es r s
  /-- The note on the cluster cannot be read. -/
  | unreadable {es : List Exchange} {e : Error} (reads : Reads es) (fault : ResizeState.ofCluster c = .error e) :
      Reconciled ns c held s es (.error (.error e)) s
  | followUp {first last : List Exchange} {r : Except Failure ResizeOutcome} {t : Store} {actual : Nat}
      {configured : String} {configuredBytes requested : Nat} {started : Instant}
      (decides : Decides s ns c actual configured configuredBytes requested)
      (marked : ResizeState.ofCluster c = .ok (.inProgress started)) (reads : Reads first)
      (followUp : FollowUp ns c held configured requested started (usedClaims s ns c) s last r t)
      (quiet : ∀ claim, .replaceClaim ns claim ∉ calls last) : Reconciled ns c held s (first ++ last) r t
  | noChange {es : List Exchange} {actual : Nat} {configured : String} {configuredBytes requested : Nat}
      (decides : Decides s ns c actual configured configuredBytes requested) (unmarked : c.resizeMark? = none)
      (reads : Reads es) (equal : requested = configuredBytes ∨ requested = actual) :
      Reconciled ns c held s es (.ok .noChange) s
  | shrink {first last : List Exchange} {r : Except Failure ResizeOutcome} {t : Store} {actual : Nat}
      {configured : String} {configuredBytes requested : Nat}
      (decides : Decides s ns c actual configured configuredBytes requested) (unmarked : c.resizeMark? = none)
      (lt : requested < actual) (reads : Reads first) (shrink : Shrink ns c held configured s last r t)
      (cluster : ∀ call ∈ calls last, IsClusterCall ns c.name call) : Reconciled ns c held s (first ++ last) r t
  | start {first last : List Exchange} {r : Except Failure ResizeOutcome} {t : Store} {actual : Nat}
      {configured target : String} {configuredBytes requested : Nat}
      (decides : Decides s ns c actual configured configuredBytes requested) (unmarked : c.resizeMark? = none)
      (ge : actual ≤ requested) (ne : requested ≠ configuredBytes ∧ requested ≠ actual) (reads : Reads first)
      (asks : Quantity.ofBytes requested = .ok target)
      (start : Start ns c held configured target requested (usedClaims s ns c) s last r t) :
      Reconciled ns c held s (first ++ last) r t

theorem ofCluster_of_unmarked (h : c.resizeMark? = none) : ResizeState.ofCluster c = .ok .notStarted := by
  unfold ResizeState.ofCluster
  rw [h]

theorem ofCluster_of_marked {text : String} (h : c.resizeMark? = some text) :
    (∃ started, ResizeState.ofCluster c = .ok (.inProgress started)) ∨ ∃ e, ResizeState.ofCluster c = .error e := by
  unfold ResizeState.ofCluster
  rw [h]
  simp only
  split
  · exact .inl ⟨_, rfl⟩
  · exact .inr ⟨_, rfl⟩

theorem not_isVerdict_of_ofCluster {e : Error} (h : ResizeState.ofCluster c = .error e) :
    (Failure.error e).isVerdict = false := by
  unfold ResizeState.ofCluster at h
  split at h
  · cases h
  · split at h <;> cases h
    rfl

/-- A decision, after exchanges that changed nothing. -/
private theorem runs_decideOn {first : List Exchange} {actual : Nat} {r : Except Failure ResizeOutcome}
    (h : (decideOn settings ns c (usedClaims s ns c) actual configured).Runs m es r m') (hs : s.Serves es t)
    (hheld : s.clusters.find? ns c.name = some held) (hreads : Reads first) (hfinds : Finds s ns c actual configured) :
    m' = m ∧ Reconciled ns c held s (first ++ es) r t := by
  have hread : Reads (first ++ []) := by simpa using hreads
  rcases runs_orFail_bind.1 h with ⟨f, hf, rfl, rfl, rfl⟩ | ⟨configuredBytes, hbytes, hrest⟩
  · obtain rfl : t = s := hs
    refine ⟨rfl, .undecided hread (.inr ⟨f, rfl, Quantity.not_isVerdict_of_alignedBytes hf⟩) (.inr ?_)⟩
    intro _ _ _ _ hdecides
    obtain ⟨rfl, rfl⟩ := hdecides.eq_of_finds hfinds
    cases hf.symm.trans hdecides.configuredBytes_eq
  rcases runs_orFail_bind.1 hrest with ⟨f, hf, rfl, rfl, rfl⟩ | ⟨requested, hrequested, hdecide⟩
  · obtain rfl : t = s := hs
    refine ⟨rfl, .undecided hread (.inr ⟨f, rfl, Quantity.not_isVerdict_of_alignedBytes hf⟩) (.inr ?_)⟩
    intro _ _ _ _ hdecides
    cases hf.symm.trans hdecides.requested_eq
  have hdecides : Decides s ns c actual configured configuredBytes requested :=
    ⟨hfinds.used, hfinds.least, hfinds.template, hbytes, hrequested⟩
  cases hmark : c.resizeMark? with
  | some text =>
    rcases ofCluster_of_marked hmark with ⟨started, hstarted⟩ | ⟨e, he⟩
    · simp only [hstarted] at hdecide
      obtain ⟨rfl, hfollowUp, hquiet⟩ := runs_followUp hdecide hs hheld
      exact ⟨rfl, .followUp hdecides hstarted hreads hfollowUp hquiet⟩
    · simp only [he] at hdecide
      obtain ⟨rfl, rfl, rfl⟩ := runs_fail.1 hdecide
      obtain rfl : t = s := hs
      exact ⟨rfl, .unreadable hread he⟩
  | none =>
    simp only [ofCluster_of_unmarked hmark] at hdecide
    by_cases hlt : requested < actual
    · simp only [hlt, if_true] at hdecide
      obtain ⟨rfl, hshrink, hcalls⟩ := runs_refuseShrink hdecide hs hheld
      exact ⟨rfl, .shrink hdecides hmark hlt hreads hshrink hcalls⟩
    · simp only [hlt, if_false] at hdecide
      by_cases hequal : (requested = configuredBytes || requested = actual) = true
      · simp only [hequal, if_true] at hdecide
        obtain ⟨rfl, rfl, rfl⟩ := runs_pure.1 hdecide
        obtain rfl : t = s := hs
        exact ⟨rfl, .noChange hdecides hmark hread (by simpa using hequal)⟩
      · simp only [hequal, Bool.false_eq_true, if_false] at hdecide
        obtain ⟨target, htarget⟩ := Quantity.ofBytes_of_alignedBytes hrequested
        obtain ⟨rfl, hstart⟩ := runs_start hdecide hs hheld htarget
        exact ⟨rfl, .start hdecides hmark (Nat.not_lt.1 hlt) (by simpa using hequal) hreads htarget hstart⟩

theorem not_isVerdict_of_leastCapacity {f : Failure} (h : leastCapacity claims = .error f) : f.isVerdict = false := by
  obtain ⟨claim, -, hclaim⟩ := mapM_eq_error (map_eq_error_iff.1 h)
  exact not_isVerdict_of_capacityBytes hclaim

/-- Why a pass ends before it compares amounts. -/
inductive Undecided (s : Store) (ns : String) (c : Cluster) (es : List Exchange) :
    Except Failure ResizeOutcome → Prop where
  | refused {r : Except Failure ResizeOutcome} (refused : Store.Refused es r) : Undecided s ns c es r
  | unused (unused : usedClaims s ns c = []) : Undecided s ns c es (.ok .noChange)
  | unreadable {f : Failure} (used : usedClaims s ns c ≠ []) (fault : leastCapacity (dataClaims s ns c) = .error f) :
      Undecided s ns c es (.error f)
  | unknown (unknown : leastCapacity (dataClaims s ns c) = .ok none) : Undecided s ns c es (.ok .noChange)
  | unset (unset : ∀ set, s.statefulSets.find? ns (c.tierSet .database) = some set →
      set.templateRequest? dataVolume = none) : Undecided s ns c es (.ok .noChange)

theorem Undecided.plain {r : Except Failure ResizeOutcome} (h : Undecided s ns c es r) :
    r = .ok .noChange ∨ ∃ f, r = .error f ∧ f.isVerdict = false := by
  cases h with
  | refused refused =>
    obtain ⟨_, _, _, rfl⟩ := refused
    exact .inr ⟨_, rfl, rfl⟩
  | unreadable used fault => exact .inr ⟨_, rfl, not_isVerdict_of_leastCapacity fault⟩
  | unused | unknown | unset => exact .inl rfl

theorem Undecided.not_decides {r : Except Failure ResizeOutcome} (h : Undecided s ns c es r) :
    Store.Refused es r ∨ ∀ actual configured configuredBytes requested,
      ¬Decides s ns c actual configured configuredBytes requested := by
  cases h with
  | refused refused => exact .inl refused
  | unused unused => exact .inr fun _ _ _ _ hdecides ↦ hdecides.used unused
  | unreadable used fault =>
    refine .inr fun _ _ _ _ hdecides ↦ ?_
    cases fault.symm.trans hdecides.least
  | unknown unknown =>
    refine .inr fun _ _ _ _ hdecides ↦ ?_
    cases unknown.symm.trans hdecides.least
  | unset unset =>
    refine .inr ?_
    rintro _ _ _ _ ⟨-, -, ⟨set, hset, hconfigured⟩, -⟩
    cases (unset set hset).symm.trans hconfigured

/-- A pass only reads and ends without a decision, for one of these reasons, or it reads and then decides on what it has
found. -/
theorem runs_reconcile_undecided {r : Except Failure ResizeOutcome} (h : (reconcile settings c).Runs m es r m')
    (hs : s.Serves es t) (hns : c.metadata.ns? = some ns) :
    (m' = m ∧ t = s ∧ Reads es ∧ Undecided s ns c es r) ∨
    ∃ first rest actual configured, es = first ++ rest ∧ Reads first ∧ Finds s ns c actual configured ∧
      s.Serves rest t ∧ (decideOn settings ns c (usedClaims s ns c) actual configured).Runs m rest r m' := by
  simp only [reconcile, hns] at h
  rcases runs_bind.1 h with ⟨es₁, es₂, volumes, m₁, rfl, hfind, hrest⟩ | ⟨f, rfl, hfind⟩
  · obtain ⟨u, hs₁, hs₂⟩ := Store.serves_append.1 hs
    obtain ⟨rfl, rfl, hreads, hrefused | hvolumes⟩ := runs_find hfind hs₁
    · exact absurd hrefused Store.not_refused_ok
    cases hvolumes
    by_cases hused : usedClaims u ns c = []
    · simp only [hused, List.isEmpty_nil, if_true] at hrest
      obtain ⟨rfl, rfl, rfl⟩ := runs_pure.1 hrest
      obtain rfl : t = u := hs₂
      exact .inl ⟨rfl, rfl, by simpa using hreads, .unused hused⟩
    have hnonempty : (usedClaims u ns c).isEmpty = false := by simpa using hused
    simp only [hnonempty, Bool.false_eq_true, if_false] at hrest
    rcases runs_orFail_bind.1 hrest with ⟨f, hf, rfl, rfl, rfl⟩ | ⟨least, hleast, hset⟩
    · obtain rfl : t = u := hs₂
      exact .inl ⟨rfl, rfl, by simpa using hreads, .unreadable hused hf⟩
    cases least with
    | none =>
      obtain ⟨rfl, rfl, rfl⟩ := runs_pure.1 hset
      obtain rfl : t = u := hs₂
      exact .inl ⟨rfl, rfl, by simpa using hreads, .unknown hleast⟩
    | some actual =>
      rcases runs_call_bind.1 hset with ⟨e, rfl, rfl, rfl⟩ | ⟨found, rest, rfl, hafter⟩
      · obtain ⟨⟨fault, rfl⟩, hserves⟩ := Store.serves_error.1 hs₂
        obtain rfl : t = u := hserves
        exact .inl ⟨rfl, rfl, by simpa [Call.isWrite] using hreads, .refused (Store.refused_self.append _)⟩
      obtain ⟨hfound, hserves⟩ := Store.serves_ok.1 hs₂
      have hserves : u.Serves rest t := hserves
      have hreads' : Reads (es₁ ++ [⟨.call (.getStatefulSet ns (c.tierSet .database)), .ok found⟩]) := by
        simpa [Call.isWrite] using hreads
      cases hset' : u.statefulSets.find? ns (c.tierSet .database) with
      | none =>
        obtain rfl : found = none := hfound.trans hset'
        obtain ⟨rfl, rfl, rfl⟩ := runs_pure.1 hafter
        obtain rfl : t = u := hserves
        refine .inl ⟨rfl, rfl, hreads', .unset fun set hset ↦ ?_⟩
        cases hset'.symm.trans hset
      | some set =>
        obtain rfl : found = some set := hfound.trans hset'
        cases hconfigured : set.templateRequest? dataVolume with
        | none =>
          simp only [hconfigured] at hafter
          obtain ⟨rfl, rfl, rfl⟩ := runs_pure.1 hafter
          obtain rfl : t = u := hserves
          refine .inl ⟨rfl, rfl, hreads', .unset fun set' hset ↦ ?_⟩
          obtain rfl := Option.some.inj (hset'.symm.trans hset)
          exact hconfigured
        | some configured =>
          simp only [hconfigured] at hafter
          have hfinds : Finds u ns c actual configured := ⟨hused, hleast, set, hset', hconfigured⟩
          exact .inr ⟨_, rest, actual, configured, List.append_cons .., hreads', hfinds, hserves, hafter⟩
  · obtain ⟨rfl, rfl, hreads, hrefused | hok⟩ := runs_find hfind hs
    · exact .inl ⟨rfl, rfl, hreads, .refused hrefused.error⟩
    · cases hok

/-- A pass only reads and ends without a decision, or it reads and then decides on what it has found. -/
theorem runs_reconcile_decideOn {r : Except Failure ResizeOutcome} (h : (reconcile settings c).Runs m es r m')
    (hs : s.Serves es t) (hns : c.metadata.ns? = some ns) :
    (m' = m ∧ t = s ∧ Reads es ∧ (r = .ok .noChange ∨ ∃ f, r = .error f ∧ f.isVerdict = false) ∧
      (Store.Refused es r ∨ ∀ actual configured configuredBytes requested,
        ¬Decides s ns c actual configured configuredBytes requested)) ∨
    ∃ first rest actual configured, es = first ++ rest ∧ Reads first ∧ Finds s ns c actual configured ∧
      s.Serves rest t ∧ (decideOn settings ns c (usedClaims s ns c) actual configured).Runs m rest r m' :=
  (runs_reconcile_undecided h hs hns).imp_left fun ⟨hm, ht, hreads, hundecided⟩ ↦
    ⟨hm, ht, hreads, hundecided.plain, hundecided.not_decides⟩

/-- A pass over the volumes of a cluster that the server holds, in this version or another. -/
theorem runs_reconcile {r : Except Failure ResizeOutcome} (h : (reconcile settings c).Runs m es r m')
    (hs : s.Serves es t) (hns : c.metadata.ns? = some ns) (hheld : s.clusters.find? ns c.name = some held) :
    m' = m ∧ Reconciled ns c held s es r t := by
  rcases runs_reconcile_decideOn h hs hns with
    ⟨rfl, rfl, hreads, hplain, hwhy⟩ | ⟨first, rest, actual, configured, rfl, hreads, hfinds, hserves, hdecide⟩
  · exact ⟨rfl, .undecided hreads hplain hwhy⟩
  · exact runs_decideOn hdecide hserves hheld hreads hfinds

/-- A resize was started over what a server held: the time of the pass was written into the note of the held version,
whatever note that had, and all claims in use that lag behind were asked. -/
structure Restarted (ns : String) (c held : Cluster) (before : Store) (es : List Exchange) (time : Instant)
    (requested : Nat) (target : String) (after : Store) : Prop where
  clock : ⟨.now, time⟩ ∈ es
  written : ⟨.call (.replaceCluster ns (held.withResizeMark time.toSecondsText)),
    .ok (held.withResizeMark time.toSecondsText)⟩ ∈ es
  target_eq : Quantity.ofBytes requested = .ok target
  asks : ∀ claim ∈ lagging requested (usedClaims before ns c),
    .replaceClaim ns (claim.withRequest target) ∈ calls es
  marked : after.clusters.find? ns c.name = some (held.withResizeMark time.toSecondsText)

/-- A pass that says that it has started a resize has done so. -/
theorem restarted_of_started {asked : Nat} (h : (reconcile settings c).Runs m es (.ok (.started asked)) m')
    (hs : s.Serves es t) (hns : c.metadata.ns? = some ns) (hheld : s.clusters.find? ns c.name = some held) :
    ∃ requested time target, Quantity.alignedBytes c.requestedStorage = .ok requested ∧
      asked = (lagging requested (usedClaims s ns c)).length ∧ Restarted ns c held s es time requested target t := by
  generalize hr : (.ok (.started asked) : Except Failure ResizeOutcome) = r at h
  cases (runs_reconcile h hs hns hheld).2 with
  | undecided reads plain why => rcases plain with rfl | ⟨f, rfl, -⟩ <;> cases hr
  | unreadable | noChange => cases hr
  | followUp decides marked reads followUp quiet => cases followUp <;> cases hr
  | shrink decides unmarked lt reads shrink cluster => cases shrink <;> cases hr
  | @start first last _ _ _ _ target _ requested decides unmarked ge ne reads asks start =>
    cases start with
    | refused refused cluster => cases hr
    | @marked first' last' rest time result _ clock written cluster growth quiet =>
      cases growth with
      | stopped | givenUp => cases hr
      | all granted count calls_eq after_eq =>
        cases hr
        refine ⟨requested, time, target, decides.requested_eq, count, ?_⟩
        exact {
          clock := by simp [clock]
          written := by simp [written]
          target_eq := asks
          asks := by
            intro claim hclaim
            have hcall : Call.replaceClaim ns (claim.withRequest target) ∈ calls last' := by
              rw [calls_eq]
              exact List.mem_map_of_mem hclaim
            simp only [calls_append, List.mem_append]
            exact .inr (.inl (.inr hcall))
          marked := by
            rw [after_eq]
            exact Objects.find?_put_of_find? hheld rfl }

/-- What a pass reads before it decides, if no call is refused. -/
def reading (s : Store) (ns : String) (c : Cluster) : List Exchange :=
  let selector := (c.tierLabels .database).selector
  [⟨.call (.listClaims ns selector), .ok (s.claims.select ns selector)⟩,
    ⟨.call (.listPods ns selector), .ok (s.pods.select ns selector)⟩,
    ⟨.call (.getStatefulSet ns (c.tierSet .database)), .ok (s.statefulSets.find? ns (c.tierSet .database))⟩]

theorem serves_reading : s.Serves (reading s ns c ++ es) t ↔ s.Serves es t := by
  constructor
  · intro h
    obtain ⟨-, hpods⟩ := Store.serves_ok.1 h
    obtain ⟨-, hset⟩ := Store.serves_ok.1 hpods
    exact (Store.serves_ok.1 hset).2
  · intro h
    exact Store.serves_ok.2 ⟨rfl, Store.serves_ok.2 ⟨rfl, Store.serves_ok.2 ⟨rfl, h⟩⟩⟩

theorem granted_reading : Store.Granted (reading s ns c) :=
  Store.granted_append.2 ⟨Store.granted_ok, Store.granted_append.2 ⟨Store.granted_ok, Store.granted_ok⟩⟩

/-- A pass that finds what it needs goes on with its decision. -/
theorem runs_reconcile_of_finds {actual : Nat} {r : Except Failure ResizeOutcome} (hns : c.metadata.ns? = some ns)
    (hfinds : Finds s ns c actual configured)
    (h : (decideOn settings ns c (usedClaims s ns c) actual configured).Runs m es r m') :
    (reconcile settings c).Runs m (reading s ns c ++ es) r m' := by
  obtain ⟨hused, hleast, set, hset, hconfigured⟩ := hfinds
  have hempty : (dataClaims s ns c).isEmpty = false := by
    rw [List.isEmpty_eq_false_iff]
    intro hempty
    exact hused (by simp [usedClaims, hempty])
  have hfind : (find ns c : Pass σ Volumes).Runs m ((reading s ns c).take 2)
      (.ok ⟨dataClaims s ns c, usedClaims s ns c⟩) m := by
    refine runs_call_bind.2 (.inr ⟨_, _, rfl, ?_⟩)
    have hall : List.filter (isDataClaim c) (s.claims.select ns (c.tierLabels .database).selector) =
        dataClaims s ns c := rfl
    simp only [hall, hempty, Bool.false_eq_true, if_false]
    exact runs_call_bind.2 (.inr ⟨_, [], rfl, runs_pure.2 ⟨rfl, rfl, rfl⟩⟩)
  have hused' : (usedClaims s ns c).isEmpty = false := by simpa using hused
  simp only [reconcile, hns]
  refine runs_bind.2 (.inl ⟨(reading s ns c).take 2, (reading s ns c).drop 2 ++ es, _, m, rfl, hfind, ?_⟩)
  simp only [hused', Bool.false_eq_true, if_false]
  refine runs_orFail_bind.2 (.inr ⟨_, hleast, runs_call_bind.2 (.inr ⟨some set, es, ?_, ?_⟩)⟩)
  · rw [← hset]
    rfl
  · simp only [hconfigured]
    exact h

theorem runs_reconcile_of_decides {actual configuredBytes : Nat} {r : Except Failure ResizeOutcome}
    (hns : c.metadata.ns? = some ns) (hdecides : Decides s ns c actual configured configuredBytes requested)
    (h : (decideOn settings ns c (usedClaims s ns c) actual configured).Runs m es r m') :
    (reconcile settings c).Runs m (reading s ns c ++ es) r m' := runs_reconcile_of_finds hns hdecides.finds h

end GaleraOperator.Volume
