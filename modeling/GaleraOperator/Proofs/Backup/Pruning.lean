import GaleraOperator.Backup.Schedules
import GaleraOperator.Proofs.Backup.Retention
import GaleraOperator.Proofs.Selector
import GaleraOperator.Proofs.Serve

/-!
# Deleting expired records

A pass over the schedules of a cluster lists the records of one schedule after the other and deletes those that expired. The
records of different schedules carry different labels, so what is deleted for one schedule is nothing to the others: every
listing shows what the server held before the pass.
-/

namespace GaleraOperator

open Kube Pass

/-- The names of the records that were deleted, each at the call that did it. -/
def deletedNames (es : List Exchange) : List String :=
  es.filterMap fun
    | ⟨.call (.deleteBackup _ name), .ok _⟩ => some name
    | _ => none

@[simp] theorem deletedNames_nil : deletedNames [] = [] := rfl

@[simp] theorem deletedNames_append (es fs : List Exchange) :
    deletedNames (es ++ fs) = deletedNames es ++ deletedNames fs :=
  List.filterMap_append

theorem mem_deletedNames {es : List Exchange} {name : String} (h : name ∈ deletedNames es) :
    ∃ ns, .deleteBackup ns name ∈ calls es := by
  obtain ⟨⟨e, reply⟩, hmem, hx⟩ := List.mem_filterMap.1 h
  split at hx
  · next ns name' a heq =>
    cases hx
    cases heq
    exact ⟨ns, mem_calls.2 ⟨_, hmem⟩⟩
  · cases hx

/-- Deleting records is the only way in which exchanges change the records of a server. -/
theorem Store.Answers.backups {s u : Store} {x : Exchange} (h : s.Answers x u) :
    (u.backups = s.backups ∧ deletedNames [x] = []) ∨
      ∃ ns name, x.call? = some (.deleteBackup ns name) ∧ deletedNames [x] = [name] ∧
        u.backups = s.backups.remove ns name := by
  obtain ⟨e, reply⟩ := x
  cases e with
  | call c =>
    rcases h with ⟨fault, rfl, rfl⟩ | ⟨rfl, rfl⟩
    · exact .inl ⟨rfl, by cases c <;> rfl⟩
    · cases c with
      | deleteBackup ns name => exact .inr ⟨ns, name, rfl, rfl, rfl⟩
      | _ => exact .inl ⟨rfl, rfl⟩
  | now | wait | measure | touch =>
    obtain rfl : u = s := h
    exact .inl ⟨rfl, rfl⟩

/-- The records of a server are those from before without those that were deleted. -/
theorem Store.Serves.backups_eq {s t : Store} {es : List Exchange} {ns : String} (hs : s.Serves es t)
    (hns : ∀ ns' name, .deleteBackup ns' name ∈ calls es → ns' = ns) :
    t.backups = s.backups.filter fun b ↦
      !(Objects.namespaceOf b = ns && (deletedNames es).contains (Objects.nameOf b)) := by
  induction es generalizing s with
  | nil =>
    obtain rfl : t = s := hs
    exact (List.filter_eq_self.2 fun b _ ↦ by simp).symm
  | cons x es ih =>
    obtain ⟨u, hx, hes⟩ := hs
    have hrest := ih hes fun ns' name hmem ↦ hns ns' name (by simp [hmem])
    have hnames : deletedNames (x :: es) = deletedNames [x] ++ deletedNames es := deletedNames_append [x] es
    rcases hx.backups with ⟨hsame, hnone⟩ | ⟨ns', name, hcall, hname, hremoved⟩
    · rw [hrest, hsame, hnames, hnone, List.nil_append]
    · obtain rfl : ns' = ns := hns ns' name (by rw [calls_cons, hcall]; simp)
      rw [hrest, hremoved, hnames, hname, Objects.remove, List.filter_filter]
      refine List.filter_congr fun b _ ↦ ?_
      simp only [Objects.isAt, List.singleton_append, List.contains_cons]
      by_cases hb : Objects.namespaceOf b = ns' <;> by_cases hb' : Objects.nameOf b = name <;> simp [hb, hb']

namespace Schedules

variable {σ : Type} {m m' : σ} {es : List Exchange} {s t : Store} {ns cluster job : String}

/-- The records that a server holds of a job of a cluster. -/
def recordsOf (s : Store) (ns cluster job : String) : List Backup :=
  s.backups.filter fun b ↦ Objects.namespaceOf b = ns &&
    (b.metadata.labelsOrNone.get? clusterLabel = some cluster && b.metadata.labelsOrNone.get? ancestorLabel = some job)

/-- The records of backups that succeeded. -/
def succeededOf (s : Store) (ns cluster job : String) : List Backup :=
  (recordsOf s ns cluster job).filter (·.state = .succeeded)

/-- Whether all records of a namespace have names, and these are different. -/
def UniquelyNamed (ns : String) (records : Objects Backup) : Prop :=
  (∀ b ∈ records, Objects.namespaceOf b = ns → b.metadata.name = some b.name) ∧
    ((records.filter fun b ↦ Objects.namespaceOf b = ns).map Backup.name).Nodup

namespace UniquelyNamed

variable {records records' : Objects Backup} {b b' : Backup}

theorem sublist (h : UniquelyNamed ns records) (hsub : records'.Sublist records) : UniquelyNamed ns records' :=
  ⟨fun b hb ↦ h.1 b (hsub.subset hb), h.2.sublist ((hsub.filter _).map _)⟩

theorem nameOf_eq (h : UniquelyNamed ns records) (hb : b ∈ records) (hns : Objects.namespaceOf b = ns) :
    Objects.nameOf b = b.name := by
  change b.metadata.name.getD "" = b.name
  rw [h.1 b hb hns]
  rfl

theorem eq_of_name_eq (h : UniquelyNamed ns records) (hb : b ∈ records) (hb' : b' ∈ records)
    (hns : Objects.namespaceOf b = ns) (hns' : Objects.namespaceOf b' = ns) (hname : b.name = b'.name) : b = b' :=
  List.inj_on_of_nodup_map h.2 (List.mem_filter.2 ⟨hb, by simpa using hns⟩)
    (List.mem_filter.2 ⟨hb', by simpa using hns'⟩) hname

end UniquelyNamed

theorem mem_recordsOf {b : Backup} : b ∈ recordsOf s ns cluster job ↔
    b ∈ s.backups ∧ Objects.namespaceOf b = ns ∧ b.metadata.labelsOrNone.get? clusterLabel = some cluster ∧
      b.metadata.labelsOrNone.get? ancestorLabel = some job := by
  simp [recordsOf]

/-- Different records of a job have different names. -/
theorem UniquelyNamed.recordsOf (h : UniquelyNamed ns s.backups) :
    ((recordsOf s ns cluster job).map Backup.name).Nodup := by
  have hsub : (Schedules.recordsOf s ns cluster job).Sublist
      (s.backups.filter fun b ↦ Objects.namespaceOf b = ns) :=
    List.monotone_filter_right s.backups fun b hb ↦ (Bool.and_eq_true_iff.1 hb).1
  exact h.2.sublist (hsub.map _)

theorem separable_recordLabels (hcluster : ',' ∉ cluster.toList) (hjob : ',' ∉ job.toList) :
    (recordLabels cluster job).Separable :=
  Labels.separable_ofList (by simp [Labels.ownKeys]) (by simp [hcluster, hjob])

theorem get?_recordLabels (key : String) :
    (recordLabels cluster job).get? key =
      if key = ancestorLabel then some job else if key = clusterLabel then some cluster else none := by
  simp [recordLabels, Dict.ofList]

/-- The listing of the records of a job. -/
theorem select_recordLabels (hcluster : ',' ∉ cluster.toList) (hjob : ',' ∉ job.toList) :
    s.backups.select ns (recordLabels cluster job).selector = recordsOf s ns cluster job := by
  refine List.filter_congr fun b _ ↦ congrArg (_ && ·) (Bool.eq_iff_iff.2 ?_)
  rw [Selector.accepts_selector (separable_recordLabels hcluster hjob)]
  have hne : clusterLabel ≠ ancestorLabel := by decide +kernel
  simp only [get?_recordLabels, Bool.and_eq_true, decide_eq_true_eq]
  constructor
  · intro h
    exact ⟨h clusterLabel cluster (by simp [hne]), h ancestorLabel job (by simp)⟩
  · rintro ⟨hclusterLabel, hancestorLabel⟩ key value h
    split at h
    · next hkey =>
      cases h
      rwa [hkey]
    · split at h
      · next hkey =>
        cases h
        rwa [hkey]
      · cases h

theorem runs_deleteRecord {name : String} {r : Except Failure Bool} (h : (deleteRecord ns name).Runs m es r m') :
    m' = m ∧ calls es = [.deleteBackup ns name] ∧ ∃ deleted, r = .ok deleted ∧
      (deletedNames es).length = [deleted].count true := by
  obtain ⟨reply, rest, rfl, hrest⟩ := runs_attempt_call_bind.1 h
  cases reply with
  | ok answer =>
    obtain ⟨rfl, rfl, rfl⟩ := runs_pure.1 hrest
    exact ⟨rfl, by simp, true, rfl, rfl⟩
  | error e =>
    obtain ⟨rfl, rfl, rfl⟩ := runs_pure.1 hrest
    exact ⟨rfl, by simp, false, rfl, rfl⟩

/-- All records are asked to be deleted, whichever deletions fail. -/
theorem runs_deleteRecords {names : List String} {r : Except Failure (List Bool)}
    (h : (names.mapM (deleteRecord ns)).Runs m es r m') :
    m' = m ∧ calls es = names.map (.deleteBackup ns) ∧ ∃ deleted, r = .ok deleted ∧
      (deletedNames es).length = deleted.count true := by
  induction names generalizing m es r with
  | nil =>
    obtain ⟨rfl, rfl, rfl⟩ := runs_mapM_nil.1 h
    exact ⟨rfl, rfl, [], rfl, rfl⟩
  | cons name names ih =>
    rcases runs_mapM_cons.1 h with ⟨es₁, es₂, b, m₁, r₂, rfl, hname, hnames, rfl⟩ | ⟨f, rfl, hname⟩
    · obtain ⟨rfl, hcalls, _, hb, hcount⟩ := runs_deleteRecord hname
      cases hb
      obtain ⟨rfl, hcalls', bs, rfl, hcount'⟩ := ih hnames
      refine ⟨rfl, by rw [calls_append, hcalls, hcalls']; rfl, b :: bs, rfl, ?_⟩
      rw [deletedNames_append, List.length_append, hcount, hcount', ← List.count_append]
      rfl
    · obtain ⟨-, -, _, hr, -⟩ := runs_deleteRecord hname
      cases hr

/-- What is done about the records of a declared schedule. -/
inductive Pruned (ns cluster : String) (declared : String × Schedule) : List Exchange → Prop where
  | kept (all : declared.2.keep = 0) : Pruned ns cluster declared []
  | unlisted {e : Error} (keeps : declared.2.keep ≠ 0) :
      Pruned ns cluster declared [⟨.call (.listBackups ns (recordLabels cluster declared.1).selector), .error e⟩]
  | listed {records : List Backup} {es : List Exchange} (keeps : declared.2.keep ≠ 0)
      (deletes : calls es = (Backup.expired records declared.2.keep.toNat).map (.deleteBackup ns)) :
      Pruned ns cluster declared
        (⟨.call (.listBackups ns (recordLabels cluster declared.1).selector), .ok records⟩ :: es)

theorem runs_prune {keep : UInt32} {r : Except Failure Nat} (h : (prune ns cluster job keep).Runs m es r m') :
    m' = m ∧ ((∃ e, es = [⟨.call (.listBackups ns (recordLabels cluster job).selector), .error e⟩] ∧
        r = .error (.error e)) ∨
      ∃ records deletes, es = ⟨.call (.listBackups ns (recordLabels cluster job).selector), .ok records⟩ :: deletes ∧
        calls deletes = (Backup.expired records keep.toNat).map (.deleteBackup ns) ∧
        r = .ok (deletedNames deletes).length) := by
  rcases runs_call_bind.1 h with ⟨e, rfl, rfl, rfl⟩ | ⟨records, rest, rfl, hrest⟩
  · exact ⟨rfl, .inl ⟨e, rfl, rfl⟩⟩
  · rcases runs_bind.1 hrest with ⟨es₁, es₂, deleted, m₁, rfl, hdelete, hend⟩ | ⟨f, rfl, hdelete⟩
    · obtain ⟨rfl, hcalls, _, hdeleted, hcount⟩ := runs_deleteRecords hdelete
      cases hdeleted
      obtain ⟨rfl, rfl, rfl⟩ := runs_pure.1 hend
      exact ⟨rfl, .inr ⟨records, es₁ ++ [], rfl, by simpa using hcalls, by simpa using hcount.symm⟩⟩
    · obtain ⟨-, -, _, hdeleted, -⟩ := runs_deleteRecords hdelete
      cases hdeleted

/-- Looking after the records of a schedule never fails, and tells how many were deleted. -/
theorem runs_pruneDeclared {declared : String × Schedule} {r : Except Failure Nat}
    (h : (pruneDeclared ns cluster declared).Runs m es r m') :
    m' = m ∧ Pruned ns cluster declared es ∧ r = .ok (deletedNames es).length := by
  unfold pruneDeclared at h
  by_cases hkeep : declared.2.keep = 0
  · simp only [hkeep, if_true] at h
    obtain ⟨rfl, rfl, rfl⟩ := runs_pure.1 h
    exact ⟨rfl, .kept hkeep, rfl⟩
  · simp only [hkeep, if_false] at h
    rcases runs_bind.1 h with ⟨es₁, es₂, attempted, m₁, rfl, hattempt, hend⟩ | ⟨f, rfl, hattempt⟩
    · rcases runs_attempt.1 hattempt with ⟨count, hok, hprune⟩ | ⟨e, hok, hprune⟩ | ⟨o, hok, hprune⟩ <;> cases hok
      · obtain ⟨rfl, ⟨_, _, hr⟩ | ⟨records, deletes, rfl, hcalls, hr⟩⟩ := runs_prune hprune <;> cases hr
        obtain ⟨rfl, rfl, rfl⟩ := runs_pure.1 hend
        exact ⟨rfl, .listed hkeep (by simpa using hcalls), by simp [deletedNames]⟩
      · obtain ⟨rfl, ⟨_, rfl, hr⟩ | ⟨_, _, _, _, hr⟩⟩ := runs_prune hprune <;> cases hr
        obtain ⟨rfl, rfl, rfl⟩ := runs_pure.1 hend
        exact ⟨rfl, .unlisted hkeep, rfl⟩
    · rcases runs_attempt.1 hattempt with ⟨_, hok, _⟩ | ⟨_, hok, _⟩ | ⟨o, hok, hprune⟩ <;> cases hok
      obtain ⟨-, ⟨_, _, hr⟩ | ⟨_, _, _, _, hr⟩⟩ := runs_prune hprune <;> cases hr

/-- Whether a record is to be deleted for a declared schedule: it is one of a backup that succeeded, the schedule keeps
some, and at least as many of those that succeeded are newer. -/
def IsExpired (s : Store) (ns cluster : String) (declared : String × Schedule) (b : Backup) : Prop :=
  b ∈ succeededOf s ns cluster declared.1 ∧ 0 < declared.2.keep.toNat ∧
    declared.2.keep.toNat ≤ Backup.newerCount (succeededOf s ns cluster declared.1) b

/-- Of one schedule the expired records and no others are asked to be deleted, if they can be listed. -/
theorem Pruned.deletes {declared : String × Schedule} (h : Pruned ns cluster declared es) (hs : s.Serves es t)
    (hnamed : UniquelyNamed ns s.backups) (hcluster : ',' ∉ cluster.toList) (hjob : ',' ∉ declared.1.toList) :
    (∀ ns' name, .deleteBackup ns' name ∈ calls es → ns' = ns ∧ ∃ b, IsExpired s ns cluster declared b ∧ b.name = name) ∧
      (declared.2.keep ≠ 0 → ∃ reply, ⟨.call (.listBackups ns (recordLabels cluster declared.1).selector), reply⟩ ∈ es ∧
        ∀ records, reply = .ok records → records = recordsOf s ns cluster declared.1 ∧
          ∀ b, IsExpired s ns cluster declared b → .deleteBackup ns b.name ∈ calls es) := by
  cases h with
  | kept all => exact ⟨by simp, fun hkeeps ↦ absurd all hkeeps⟩
  | unlisted keeps =>
    refine ⟨by simp, fun _ ↦ ⟨_, List.mem_cons_self .., ?_⟩⟩
    rintro _ ⟨⟩
  | @listed records rest keeps deletes =>
    obtain ⟨hrecords, -⟩ := Store.serves_ok.1 hs
    rw [show (s.perform (.listBackups ns (recordLabels cluster declared.1).selector)).1 =
      recordsOf s ns cluster declared.1 from select_recordLabels hcluster hjob] at hrecords
    subst hrecords
    have hexpired {name : String} : name ∈ Backup.expired (recordsOf s ns cluster declared.1) declared.2.keep.toNat ↔
        ∃ b, IsExpired s ns cluster declared b ∧ b.name = name := by
      have hpos : 0 < declared.2.keep.toNat :=
        Nat.pos_of_ne_zero fun hzero ↦ keeps (UInt32.toNat_inj.1 hzero)
      rw [Backup.mem_expired_iff hnamed.recordsOf]
      constructor
      · rintro ⟨b, hb, hname, hkeep⟩
        exact ⟨b, ⟨hb, hpos, hkeep⟩, hname⟩
      · rintro ⟨b, ⟨hb, -, hkeep⟩, hname⟩
        exact ⟨b, hb, hname, hkeep⟩
    have hcalls {ns' name : String} : Call.deleteBackup ns' name ∈ calls (⟨.call (.listBackups ns
        (recordLabels cluster declared.1).selector), .ok (recordsOf s ns cluster declared.1)⟩ :: rest) ↔
          ns' = ns ∧ ∃ b, IsExpired s ns cluster declared b ∧ b.name = name := by
      rw [← hexpired]
      simp [deletes, and_comm, eq_comm]
    refine ⟨fun ns' name hmem ↦ hcalls.1 hmem, fun _ ↦ ⟨_, List.mem_cons_self .., ?_⟩⟩
    rintro _ ⟨⟩
    exact ⟨rfl, fun b hb ↦ hcalls.2 ⟨rfl, b, hb, rfl⟩⟩

/-- What is left of records when some are deleted that are not looked at. -/
theorem filter_backups_of_deletes {p q : Backup → Bool} (hs : s.Serves es t) (hnamed : UniquelyNamed ns s.backups)
    (hapart : ∀ b, p b = true → q b = false) (hdeletes : ∀ ns' name, .deleteBackup ns' name ∈ calls es →
      ns' = ns ∧ ∃ b ∈ s.backups, Objects.namespaceOf b = ns ∧ p b = true ∧ b.name = name) :
    t.backups.filter q = s.backups.filter q := by
  rw [hs.backups_eq fun ns' name hmem ↦ (hdeletes ns' name hmem).1, List.filter_filter]
  refine List.filter_congr fun b hb ↦ ?_
  rw [Bool.and_eq_left_iff_imp]
  intro hseen
  rw [Bool.not_eq_true', Bool.eq_false_iff]
  intro hdeleted
  rw [Bool.and_eq_true, decide_eq_true_eq] at hdeleted
  obtain ⟨ns', hmem⟩ := mem_deletedNames (List.contains_iff_mem.1 hdeleted.2)
  obtain ⟨-, b', hb', hns', hp, hname⟩ := hdeletes ns' _ hmem
  obtain rfl : b' = b := hnamed.eq_of_name_eq hb' hb hns' hdeleted.1 (hname.trans (hnamed.nameOf_eq hb hdeleted.1))
  rw [hapart b' hp] at hseen
  cases hseen

/-- What is deleted of one job is nothing to another. -/
theorem recordsOf_eq_of_deletes {job' : String} (hs : s.Serves es t) (hnamed : UniquelyNamed ns s.backups)
    (hne : job' ≠ job) (hdeletes : ∀ ns' name, .deleteBackup ns' name ∈ calls es →
      ns' = ns ∧ ∃ b ∈ recordsOf s ns cluster job, b.name = name) :
    recordsOf t ns cluster job' = recordsOf s ns cluster job' := by
  refine filter_backups_of_deletes (p := fun b ↦ b.metadata.labelsOrNone.get? ancestorLabel = some job) hs hnamed
    (fun b hjob ↦ ?_) fun ns' name hmem ↦ ?_
  · simp [of_decide_eq_true hjob, Ne.symm hne]
  · obtain ⟨hns, b, hb, hname⟩ := hdeletes ns' name hmem
    obtain ⟨hmem, hnamespace, -, hjob⟩ := mem_recordsOf.1 hb
    exact ⟨hns, b, hmem, hnamespace, decide_eq_true hjob, hname⟩

/-- What looking after the records of several schedules comes to: of every schedule the expired records and no others are
asked to be deleted, whatever becomes of those before them. -/
structure PrunedAll (ns cluster : String) (entries : List (String × Schedule)) (s : Store) (es : List Exchange) : Prop where
  deletes : ∀ ns' name, .deleteBackup ns' name ∈ calls es →
    ns' = ns ∧ ∃ declared ∈ entries, ∃ b, IsExpired s ns cluster declared b ∧ b.name = name
  complete : ∀ declared ∈ entries, declared.2.keep ≠ 0 →
    ∃ reply, ⟨.call (.listBackups ns (recordLabels cluster declared.1).selector), reply⟩ ∈ es ∧
      ∀ records, reply = .ok records → records = recordsOf s ns cluster declared.1 ∧
        ∀ b, IsExpired s ns cluster declared b → .deleteBackup ns b.name ∈ calls es

/-- What is to be done depends on the records of the schedules alone. -/
theorem PrunedAll.congr {entries : List (String × Schedule)} (h : PrunedAll ns cluster entries s es)
    (hrecords : ∀ declared ∈ entries, recordsOf t ns cluster declared.1 = recordsOf s ns cluster declared.1) :
    PrunedAll ns cluster entries t es := by
  have hexpired : ∀ declared ∈ entries, ∀ b, IsExpired t ns cluster declared b ↔ IsExpired s ns cluster declared b := by
    intro declared hmem b
    simp only [IsExpired, succeededOf, hrecords declared hmem]
  refine ⟨fun ns' name hmem ↦ ?_, fun declared hdeclared hkeeps ↦ ?_⟩
  · obtain ⟨hns, declared, hdeclared, b, hb, hname⟩ := h.deletes ns' name hmem
    exact ⟨hns, declared, hdeclared, b, (hexpired declared hdeclared b).2 hb, hname⟩
  · obtain ⟨reply, hlisted, hasked⟩ := h.complete declared hdeclared hkeeps
    refine ⟨reply, hlisted, fun records hr ↦ ?_⟩
    obtain ⟨hlist, hall⟩ := hasked records hr
    exact ⟨hlist.trans (hrecords declared hdeclared).symm, fun b hb ↦ hall b ((hexpired declared hdeclared b).1 hb)⟩

theorem runs_pruneEntries {entries : List (String × Schedule)} {r : Except Failure (List Nat)}
    (h : (entries.mapM (pruneDeclared ns cluster)).Runs m es r m') (hs : s.Serves es t)
    (hnamed : UniquelyNamed ns s.backups) (hkeys : (entries.map Prod.fst).Nodup) (hcluster : ',' ∉ cluster.toList)
    (hjobs : ∀ declared ∈ entries, ',' ∉ declared.1.toList) :
    m' = m ∧ (∃ counts, r = .ok counts ∧ total counts = (deletedNames es).length) ∧
      PrunedAll ns cluster entries s es := by
  induction entries generalizing m s es r with
  | nil =>
    obtain ⟨rfl, rfl, rfl⟩ := runs_mapM_nil.1 h
    exact ⟨rfl, ⟨[], rfl, rfl⟩, by simp, by simp⟩
  | cons first entries ih =>
    obtain ⟨hfirst, hkeys⟩ := List.nodup_cons.1 hkeys
    obtain ⟨hjob, hjobs⟩ := List.forall_mem_cons.1 hjobs
    rcases runs_mapM_cons.1 h with ⟨es₁, es₂, count, m₁, r₂, rfl, hprune, hrest, rfl⟩ | ⟨f, rfl, hprune⟩
    · obtain ⟨u, hs₁, hs₂⟩ := Store.serves_append.1 hs
      obtain ⟨rfl, hpruned, hcount⟩ := runs_pruneDeclared hprune
      obtain ⟨hdeletes, hcomplete⟩ := hpruned.deletes hs₁ hnamed hcluster hjob
      have hbackups := hs₁.backups_eq fun ns' name hmem ↦ (hdeletes ns' name hmem).1
      have hnamed' : UniquelyNamed ns u.backups := hnamed.sublist (hbackups ▸ List.filter_sublist)
      obtain ⟨rfl, ⟨counts, rfl, htotal⟩, hall⟩ := ih hrest hs₂ hnamed' hkeys hjobs
      -- The listings of the other schedules are what they would have been before.
      replace hall : PrunedAll ns cluster entries s es₂ := by
        refine hall.congr fun declared hmem ↦ Eq.symm ?_
        have hne : declared.1 ≠ first.1 := fun heq ↦ hfirst (heq ▸ List.mem_map_of_mem hmem)
        refine recordsOf_eq_of_deletes hs₁ hnamed hne fun ns' name hcall ↦ ?_
        obtain ⟨hns, b', hb', hname⟩ := hdeletes ns' name hcall
        exact ⟨hns, b', List.mem_of_mem_filter hb'.1, hname⟩
      refine ⟨rfl, ⟨count :: counts, rfl, ?_⟩, ?_, ?_⟩
      · cases hcount
        rw [deletedNames_append, List.length_append, ← htotal]
        rfl
      · intro ns' name hmem
        rcases mem_calls_append.1 hmem with hmem | hmem
        · obtain ⟨hns, b, hb, hname⟩ := hdeletes ns' name hmem
          exact ⟨hns, first, List.mem_cons_self .., b, hb, hname⟩
        · obtain ⟨hns, declared, hdeclared, b, hb, hname⟩ := hall.deletes ns' name hmem
          exact ⟨hns, declared, List.mem_cons_of_mem _ hdeclared, b, hb, hname⟩
      · refine List.forall_mem_cons.2 ⟨fun hkeeps ↦ ?_, fun declared hdeclared hkeeps ↦ ?_⟩
        · obtain ⟨reply, hlisted, hasked⟩ := hcomplete hkeeps
          refine ⟨reply, List.mem_append_left _ hlisted, fun records hr ↦ ?_⟩
          obtain ⟨hlist, hall⟩ := hasked records hr
          exact ⟨hlist, fun b hb ↦ mem_calls_append.2 (.inl (hall b hb))⟩
        · obtain ⟨reply, hlisted, hasked⟩ := hall.complete declared hdeclared hkeeps
          refine ⟨reply, List.mem_append_right _ hlisted, fun records hr ↦ ?_⟩
          obtain ⟨hlist, hall⟩ := hasked records hr
          exact ⟨hlist, fun b hb ↦ mem_calls_append.2 (.inr (hall b hb))⟩
    · obtain ⟨-, -, hr⟩ := runs_pruneDeclared hprune
      cases hr

end Schedules

end GaleraOperator
