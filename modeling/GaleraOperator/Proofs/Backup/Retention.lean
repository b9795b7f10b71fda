import GaleraOperator.Backup.Retention
import Mathlib

/-!
# Which records expire

Ages are totally ordered, so of records with different names every one is older than another or newer. Taking out the
oldest ones leaves the newest: of the succeeded records those expire that are older than as many others as are kept.
-/

namespace GaleraOperator.Backup

namespace Age

theorem createdBefore_irrefl (s : Option Instant) : createdBefore s s = false := by
  cases s with
  | none => rfl
  | some s => exact decide_eq_false (Int.lt_irrefl s.rank)

theorem createdBefore_trans {s t u : Option Instant} (h : createdBefore s t = true) (h' : createdBefore t u = true) :
    createdBefore s u = true := by
  cases t with
  | none => cases s <;> cases h
  | some t => cases u with
    | none => cases h'
    | some u => cases s with
      | none => rfl
      | some s => exact decide_eq_true (Int.lt_trans (of_decide_eq_true h) (of_decide_eq_true h'))

theorem createdBefore_total (s t : Option Instant) : createdBefore s t = true ∨ s = t ∨ createdBefore t s = true := by
  cases s with
  | none => cases t with
    | none => exact .inr (.inl rfl)
    | some t => exact .inl rfl
  | some s => cases t with
    | none => exact .inr (.inr rfl)
    | some t =>
      rcases Int.lt_trichotomy s.rank t.rank with h | h | h
      · exact .inl (decide_eq_true h)
      · exact .inr (.inl (congrArg some (Instant.rank_inj.1 h)))
      · exact .inr (.inr (decide_eq_true h))

variable {a b c : Age}

theorem olderThan_iff :
    a.olderThan b = true ↔ createdBefore a.created b.created = true ∨ (a.created = b.created ∧ a.name < b.name) := by
  simp [olderThan]

/-- No age is older than itself. -/
theorem olderThan_irrefl (a : Age) : a.olderThan a = false := by
  simp [olderThan, createdBefore_irrefl]

theorem olderThan_trans (h : a.olderThan b = true) (h' : b.olderThan c = true) : a.olderThan c = true := by
  rw [olderThan_iff] at *
  rcases h with h | ⟨hab, hname⟩ <;> rcases h' with h' | ⟨hbc, hname'⟩
  · exact .inl (createdBefore_trans h h')
  · exact .inl (hbc ▸ h)
  · exact .inl (hab ▸ h')
  · exact .inr ⟨hab.trans hbc, String.lt_trans hname hname'⟩

/-- Of two different ages one is older. -/
theorem olderThan_total (h : a ≠ b) : a.olderThan b = true ∨ b.olderThan a = true := by
  simp only [olderThan_iff]
  rcases createdBefore_total a.created b.created with hab | hab | hba
  · exact .inl (.inl hab)
  · by_cases hlt : a.name < b.name
    · exact .inl (.inr ⟨hab, hlt⟩)
    · by_cases hgt : b.name < a.name
      · exact .inr (.inr ⟨hab.symm, hgt⟩)
      · obtain ⟨_, _⟩ := a
        obtain ⟨_, _⟩ := b
        cases hab
        cases Dict.eq_of_not_lt hlt hgt
        exact absurd rfl h
  · exact .inr (.inl hba)

theorem not_olderThan_trans (h : b.olderThan a = false) (h' : c.olderThan b = false) : c.olderThan a = false := by
  rw [Bool.eq_false_iff]
  intro hca
  by_cases hne : a = b
  · subst hne
    exact absurd hca (by simp [h'])
  · rcases olderThan_total hne with hab | hba
    · exact absurd (olderThan_trans hca hab) (by simp [h'])
    · exact absurd hba (by simp [h])

end Age

/-- The oldest of records is one of them, the others remain, and none of them is older. -/
theorem extractOldest_spec (first : Age) (rest : List Age) :
    List.Perm ((extractOldest first rest).1 :: (extractOldest first rest).2) (first :: rest) ∧
      ∀ x ∈ first :: rest, x.olderThan (extractOldest first rest).1 = false := by
  induction rest generalizing first with
  | nil => exact ⟨.refl _, by simp [extractOldest, Age.olderThan_irrefl]⟩
  | cons next rest ih =>
    unfold extractOldest
    split
    · next hnext =>
      obtain ⟨hperm, hle⟩ := ih next
      refine ⟨(List.Perm.swap ..).trans (hperm.cons first), List.forall_mem_cons.2 ⟨?_, hle⟩⟩
      rw [Bool.eq_false_iff]
      intro hfirst
      exact absurd (Age.olderThan_trans hnext hfirst) (by simp [hle next (by simp)])
    · next hnext =>
      obtain ⟨hperm, hle⟩ := ih first
      obtain ⟨hfirst, hrest⟩ := List.forall_mem_cons.1 hle
      refine ⟨(List.Perm.swap ..).trans ((hperm.cons next).trans (.swap ..)), ?_⟩
      refine List.forall_mem_cons.2 ⟨hfirst, List.forall_mem_cons.2 ⟨?_, hrest⟩⟩
      exact Age.not_olderThan_trans hfirst (Bool.eq_false_iff.2 hnext)

/-- Taking out the oldest records leaves others, none of which is older than one that was taken. -/
theorem takeOldest_spec (count : Nat) (ages : List Age) :
    (takeOldest count ages).length = min count ages.length ∧
      ∃ kept, List.Perm (takeOldest count ages ++ kept) ages ∧
        ∀ x ∈ takeOldest count ages, ∀ y ∈ kept, y.olderThan x = false := by
  induction count generalizing ages with
  | zero => exact ⟨by simp [takeOldest], ages, by simp [takeOldest], by simp [takeOldest]⟩
  | succ count ih =>
    cases ages with
    | nil => exact ⟨by simp [takeOldest], [], by simp [takeOldest], by simp [takeOldest]⟩
    | cons first rest =>
      obtain ⟨hperm, hle⟩ := extractOldest_spec first rest
      obtain ⟨hlength, kept, hkept, holder⟩ := ih (extractOldest first rest).2
      have hrest := hperm.length_eq
      simp only [List.length_cons] at hrest
      simp only [takeOldest]
      refine ⟨by simp only [List.length_cons, hlength]; omega, kept, (hkept.cons _).trans hperm, ?_⟩
      refine List.forall_mem_cons.2 ⟨fun y hy ↦ hle y ?_, holder⟩
      exact hperm.subset (List.mem_cons_of_mem _ (hkept.subset (List.mem_append_right _ hy)))

/-- The number of records that are newer than one of them. -/
def newerCount (records : List Backup) (b : Backup) : Nat := records.countP fun other ↦ b.age.olderThan other.age

/-- An age is among the oldest ones exactly if at least as many as remain are newer. -/
theorem mem_takeOldest_iff {keep : Nat} {ages : List Age} {a : Age} (hnodup : ages.Nodup) (ha : a ∈ ages) :
    a ∈ takeOldest (ages.length - keep) ages ↔ keep ≤ ages.countP a.olderThan := by
  obtain ⟨hlength, kept, hperm, holder⟩ := takeOldest_spec (ages.length - keep) ages
  have hkept : kept.length = min keep ages.length := by
    have := hperm.length_eq
    rw [List.length_append, hlength] at this
    omega
  have hnodup' := hperm.nodup_iff.2 hnodup
  rw [← hperm.countP_eq, List.countP_append]
  constructor
  · intro htaken
    have hnewer : ∀ y ∈ kept, a.olderThan y = true := by
      intro y hy
      have hne : a ≠ y := by
        rintro rfl
        exact (List.nodup_append.1 hnodup').2.2 a htaken a hy rfl
      exact (Age.olderThan_total hne).resolve_right (by simp [holder a htaken y hy])
    have hpos : 0 < (takeOldest (ages.length - keep) ages).length := List.length_pos_of_mem htaken
    rw [List.countP_eq_length.2 hnewer, hkept]
    omega
  · intro hkeep
    refine Decidable.byContradiction fun htaken ↦ ?_
    have hmem : a ∈ kept := (List.mem_append.1 (hperm.mem_iff.2 ha)).resolve_left htaken
    have hnone : (takeOldest (ages.length - keep) ages).countP a.olderThan = 0 :=
      List.countP_eq_zero.2 fun x hx ↦ by simp [holder x hx a hmem]
    have hlt : kept.countP a.olderThan < kept.length := by
      refine Nat.lt_of_le_of_ne List.countP_le_length fun heq ↦ ?_
      exact absurd (List.countP_eq_length.1 heq a hmem) (by simp [Age.olderThan_irrefl])
    omega

/-- Of different ages as many as are to remain are among the newest, or all there are. -/
theorem countP_newest (keep : Nat) {ages : List Age} (hnodup : ages.Nodup) :
    ages.countP (fun a ↦ ages.countP a.olderThan < keep) = min keep ages.length := by
  obtain ⟨hlength, kept, hperm, -⟩ := takeOldest_spec (ages.length - keep) ages
  have htaken : (takeOldest (ages.length - keep) ages).countP (fun a ↦ ages.countP a.olderThan < keep) = 0 := by
    refine List.countP_eq_zero.2 fun a ha ↦ ?_
    have := (mem_takeOldest_iff hnodup (hperm.subset (List.mem_append_left _ ha))).1 ha
    simpa using this
  have hkept : kept.countP (fun a ↦ ages.countP a.olderThan < keep) = kept.length := by
    refine List.countP_eq_length.2 fun a ha ↦ ?_
    have hnot : a ∉ takeOldest (ages.length - keep) ages := fun htaken ↦
      (List.nodup_append.1 (hperm.nodup_iff.2 hnodup)).2.2 a htaken a ha rfl
    rw [mem_takeOldest_iff hnodup (hperm.subset (List.mem_append_right _ ha))] at hnot
    simpa using hnot
  have := hperm.length_eq
  rw [List.length_append, hlength] at this
  rw [← hperm.countP_eq, List.countP_append, htaken, hkept]
  omega

/-- Of records with different names as many as are to remain are among the newest, or all there are. -/
theorem countP_newerCount (keep : Nat) {records : List Backup} (hnames : (records.map Backup.name).Nodup) :
    records.countP (fun b ↦ newerCount records b < keep) = min keep records.length := by
  have hages : (records.map age).Nodup := by
    refine List.Nodup.of_map Age.name ?_
    rw [List.map_map]
    exact hnames
  have hcount := countP_newest keep hages
  rw [List.length_map, List.countP_map] at hcount
  rw [← hcount]
  refine List.countP_congr fun b _ ↦ ?_
  simp only [newerCount, List.countP_map, Function.comp_def]
  exact Iff.rfl

theorem length_succeededAges_le (records : List Backup) : (succeededAges records).length ≤ records.length := by
  rw [succeededAges, List.length_map]
  exact List.length_filter_le ..

/-- Where there are few records, nothing would be taken out of them either. -/
theorem expired_eq (records : List Backup) (keep : Nat) :
    expired records keep =
      (takeOldest ((succeededAges records).length - keep) (succeededAges records)).map (·.name) := by
  have hnone (h : (succeededAges records).length ≤ keep) :
      (takeOldest ((succeededAges records).length - keep) (succeededAges records)).map (·.name) = [] := by
    rw [Nat.sub_eq_zero_of_le h, takeOldest, List.map_nil]
  by_cases hrecords : records.length ≤ keep
  · rw [expired, if_pos hrecords]
    exact (hnone ((length_succeededAges_le records).trans hrecords)).symm
  · rw [expired, if_neg hrecords]
    by_cases hages : (succeededAges records).length ≤ keep
    · exact (if_pos hages).trans (hnone hages).symm
    · exact if_neg hages

/-- Of records with different names the succeeded ones expire than which at least as many as are kept are newer. -/
theorem mem_expired_iff {records : List Backup} {keep : Nat} {name : String} (hnames : (records.map Backup.name).Nodup) :
    name ∈ expired records keep ↔ ∃ b ∈ records.filter (·.state = .succeeded), b.name = name ∧
      keep ≤ newerCount (records.filter (·.state = .succeeded)) b := by
  have hnodup : (succeededAges records).Nodup := by
    have hages : ((succeededAges records).map Age.name).Nodup := by
      rw [succeededAges, List.map_map]
      exact hnames.sublist (List.filter_sublist.map _)
    exact hages.of_map Age.name
  have hcount (b : Backup) : (succeededAges records).countP b.age.olderThan =
      newerCount (records.filter (·.state = .succeeded)) b := List.countP_map
  simp only [expired_eq, List.mem_map]
  constructor
  · rintro ⟨a, ha, rfl⟩
    obtain ⟨-, kept, hperm, -⟩ := takeOldest_spec ((succeededAges records).length - keep) (succeededAges records)
    have hmem : a ∈ succeededAges records := hperm.subset (List.mem_append_left _ ha)
    obtain ⟨b, hb, rfl⟩ := List.mem_map.1 hmem
    exact ⟨b, hb, rfl, hcount b ▸ (mem_takeOldest_iff hnodup hmem).1 ha⟩
  · rintro ⟨b, hb, rfl, hkeep⟩
    exact ⟨b.age, (mem_takeOldest_iff hnodup (List.mem_map_of_mem hb)).2 (hcount b ▸ hkeep), rfl⟩

/-- Of any records no more succeeded ones than are kept do not expire. -/
theorem length_succeededAges_unexpired_le (records : List Backup) (keep : Nat) :
    (succeededAges (records.filter fun b ↦ !(expired records keep).contains b.name)).length ≤ keep := by
  obtain ⟨hlength, kept, hperm, -⟩ := takeOldest_spec ((succeededAges records).length - keep) (succeededAges records)
  have hunexpired : succeededAges (records.filter fun b ↦ !(expired records keep).contains b.name) =
      (succeededAges records).filter fun a ↦ !(expired records keep).contains a.name := by
    simp only [succeededAges, List.filter_map, List.filter_filter, Function.comp_def, Bool.and_comm]
    rfl
  have htaken : (takeOldest ((succeededAges records).length - keep) (succeededAges records)).countP
      (fun a ↦ !(expired records keep).contains a.name) = 0 := by
    refine List.countP_eq_zero.2 fun a ha ↦ ?_
    have hexpired : a.name ∈ expired records keep := by
      rw [expired_eq]
      exact List.mem_map_of_mem ha
    simp [hexpired]
  have hkept : kept.length ≤ keep := by
    have := hperm.length_eq
    rw [List.length_append, hlength] at this
    omega
  rw [hunexpired, ← List.countP_eq_length_filter, ← hperm.countP_eq, List.countP_append, htaken, Nat.zero_add]
  exact List.countP_le_length.trans hkept

/-- Nothing expires where no more succeeded records are than are kept. -/
theorem expired_eq_nil {records : List Backup} {keep : Nat} (h : (succeededAges records).length ≤ keep) :
    expired records keep = [] := by
  rw [expired_eq, Nat.sub_eq_zero_of_le h, takeOldest, List.map_nil]

end GaleraOperator.Backup
