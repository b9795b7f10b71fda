import GaleraOperator.Proofs.Backup.Retention

/-!
# Expired records in order

Taking out the oldest record again and again goes through the records in ascending order, so those that expire are the
first ones of the sorted succeeded records. What expires is therefore a matter of which succeeded records there are, and
not of the order in which they are listed or of what else is listed with them.
-/

namespace GaleraOperator.Backup

/-- Where a time of creation stands among all of them, an unknown one before every other. -/
def creationRank : Option Instant → WithBot ℤ
  | none => ⊥
  | some t => t.rank

/-- What ages are put in order by: the time of creation, an unknown one first, and then the name. -/
def Age.orderKey (a : Age) : WithBot ℤ ×ₗ String := toLex (creationRank a.created, a.name)

/-- The succeeded ones among records, in ascending order. -/
def oldestFirst (records : List Backup) : List Backup :=
  (records.filter (·.state = .succeeded)).mergeSort fun a b ↦ a.age.orderKey ≤ b.age.orderKey

/-! ## The order of ages -/

theorem creationRank_injective : Function.Injective creationRank := by
  intro s t h
  cases s <;> cases t
  · rfl
  · exact absurd h.symm WithBot.coe_ne_bot
  · exact absurd h WithBot.coe_ne_bot
  · exact congrArg some (Instant.rank_inj.1 (WithBot.coe_injective h))

theorem createdBefore_iff (s t : Option Instant) : createdBefore s t = true ↔ creationRank s < creationRank t := by
  cases s <;> cases t
  · exact iff_of_false Bool.false_ne_true (lt_irrefl _)
  · exact iff_of_true rfl (WithBot.bot_lt_coe _)
  · exact iff_of_false Bool.false_ne_true not_lt_bot
  · next s t => exact decide_eq_true_iff.trans (WithBot.coe_lt_coe (a := s.rank)).symm

namespace Age

variable {a b : Age}

/-- One age is older than another exactly if its key is less. -/
theorem olderThan_iff_orderKey : a.olderThan b = true ↔ a.orderKey < b.orderKey := by
  rw [olderThan_iff, createdBefore_iff, orderKey, orderKey, Prod.Lex.toLex_lt_toLex]
  exact or_congr_right (and_congr_left' creationRank_injective.eq_iff.symm)

theorem orderKey_injective : Function.Injective orderKey := by
  rintro ⟨s, name⟩ ⟨t, name'⟩ h
  obtain ⟨hcreated, hname⟩ := Prod.mk.inj (toLex.injective h)
  exact congrArg₂ Age.mk (creationRank_injective hcreated) hname

theorem olderThan_eq_false_iff : b.olderThan a = false ↔ a.orderKey ≤ b.orderKey := by
  rw [← Bool.not_eq_true, olderThan_iff_orderKey, not_lt]

end Age

/-! ## Taking out in order -/

/-- The oldest records are taken out in ascending order. -/
theorem takeOldest_sorted (count : Nat) (ages : List Age) :
    (takeOldest count ages).Pairwise fun a b ↦ a.orderKey ≤ b.orderKey := by
  induction count generalizing ages with
  | zero => exact .nil
  | succ count ih =>
    cases ages with
    | nil => exact .nil
    | cons first rest =>
      obtain ⟨hperm, hle⟩ := extractOldest_spec first rest
      obtain ⟨-, kept, hkept, -⟩ := takeOldest_spec count (extractOldest first rest).2
      refine List.pairwise_cons.2 ⟨fun a ha ↦ ?_, ih _⟩
      have hmem : a ∈ first :: rest :=
        hperm.subset (List.mem_cons_of_mem _ (hkept.subset (List.mem_append_left _ ha)))
      exact Age.olderThan_eq_false_iff.1 (hle a hmem)

/-- Sorting ages, by the order that tells which one is older. -/
def sortedAges (ages : List Age) : List Age := ages.mergeSort fun a b ↦ a.orderKey ≤ b.orderKey

theorem sortedAges_pairwise (ages : List Age) : (sortedAges ages).Pairwise fun a b ↦ a.orderKey ≤ b.orderKey := by
  refine (List.pairwise_mergeSort ?_ ?_ ages).imp of_decide_eq_true
  · intro a b c hab hbc
    exact decide_eq_true (le_trans (of_decide_eq_true hab) (of_decide_eq_true hbc))
  · intro a b
    simpa using le_total a.orderKey b.orderKey

theorem sortedAges_perm (ages : List Age) : List.Perm (sortedAges ages) ages := List.mergeSort_perm ..

/-- Ages that are in ascending order are what sorting them gives. -/
theorem eq_sortedAges {sorted ages : List Age} (hperm : List.Perm sorted ages)
    (hsorted : sorted.Pairwise fun a b ↦ a.orderKey ≤ b.orderKey) : sorted = sortedAges ages := by
  refine (hperm.trans (sortedAges_perm ages).symm).eq_of_pairwise ?_ hsorted (sortedAges_pairwise ages)
  intro a b _ _ hab hba
  exact Age.orderKey_injective (le_antisymm hab hba)

/-- So many of the oldest records are the first ones of the sorted records. -/
theorem takeOldest_eq_take (count : Nat) (ages : List Age) : takeOldest count ages = (sortedAges ages).take count := by
  obtain ⟨hlength, kept, hperm, holder⟩ := takeOldest_spec count ages
  have hsorted : takeOldest count ages ++ sortedAges kept = sortedAges ages := by
    refine eq_sortedAges (((sortedAges_perm kept).append_left _).trans hperm) (List.pairwise_append.2 ?_)
    refine ⟨takeOldest_sorted count ages, sortedAges_pairwise kept, fun a ha b hb ↦ ?_⟩
    exact Age.olderThan_eq_false_iff.1 (holder a ha b ((sortedAges_perm kept).subset hb))
  have htaken := congrArg (List.take (takeOldest count ages).length) hsorted
  rw [List.take_left, hlength] at htaken
  rw [htaken, List.take_eq_take_iff, (sortedAges_perm ages).length_eq]
  omega

/-! ## Which records expire, in order -/

variable {records records' : List Backup}

/-- Sorting the succeeded records sorts their ages. -/
theorem map_age_oldestFirst (records : List Backup) :
    (oldestFirst records).map age = sortedAges (succeededAges records) :=
  List.map_mergeSort fun _ _ _ _ ↦ rfl

/-- The records that expire are the first ones of the sorted succeeded records, all but as many as are kept. -/
theorem expired_eq_take (records : List Backup) (keep : Nat) : expired records keep =
    ((oldestFirst records).take ((records.filter (·.state = .succeeded)).length - keep)).map Backup.name := by
  rw [expired_eq, takeOldest_eq_take, ← map_age_oldestFirst, succeededAges, List.length_map, ← List.map_take,
    List.map_map]
  rfl

/-- What expires depends on the succeeded records alone, and not on their order. -/
theorem expired_congr (keep : Nat)
    (h : List.Perm (records'.filter (·.state = .succeeded)) (records.filter (·.state = .succeeded))) :
    expired records' keep = expired records keep := by
  have hages : List.Perm (succeededAges records') (succeededAges records) := h.map age
  have hsorted : sortedAges (succeededAges records') = sortedAges (succeededAges records) :=
    eq_sortedAges ((sortedAges_perm _).trans hages) (sortedAges_pairwise _)
  rw [expired_eq, expired_eq, takeOldest_eq_take, takeOldest_eq_take, hsorted, hages.length_eq]

/-- The names of the records that expire are, in this order, those of the sorted succeeded records but for the last ones,
which are kept. They are the same for the same records in another order and for records with the same succeeded ones
among them, and the same ones are taken out where it is not looked first whether there are enough records at all. -/
theorem expired_eq_oldestFirst (records : List Backup) (keep : Nat) :
    expired records keep =
      ((oldestFirst records).take ((records.filter (·.state = .succeeded)).length - keep)).map Backup.name ∧
    (∀ records', List.Perm records' records → expired records' keep = expired records keep) ∧
    (∀ records', records'.filter (·.state = .succeeded) = records.filter (·.state = .succeeded) →
      expired records' keep = expired records keep) ∧
    (takeOldest ((succeededAges records).length - keep) (succeededAges records)).map (·.name) =
      expired records keep :=
  ⟨expired_eq_take records keep, fun _ h ↦ expired_congr keep (h.filter _), fun _ h ↦ expired_congr keep (.of_eq h),
    (expired_eq records keep).symm⟩

/-- A record of this name, created in the evening of this day if it is known. -/
private def recordOfDay (day : Option Int) (state : BackupState) (name : String) : Backup where
  metadata := { Kube.ObjectMeta.empty with
    name := some name
    creationTimestamp := day.map fun day ↦ ⟨day, 79200, 500000000, by decide, by decide⟩ }
  spec := ⟨"db", "s3"⟩
  status := some ⟨state, none, none⟩

/-- Records of the same day expire by their names, those of no known day before them, and a failed one does not count. -/
theorem expired_eq_oldestFirst_nightly :
    let records := [recordOfDay (some 2) .succeeded "b", recordOfDay (some 1) .failed "e",
      recordOfDay (some 2) .succeeded "a", recordOfDay none .succeeded "d", recordOfDay (some 3) .succeeded "c"]
    expired records 1 = ["d", "a", "b"] ∧ expired records.reverse 1 = expired records 1 ∧
      expired (records.filter (·.state = .succeeded)) 1 = expired records 1 := by
  intro records
  have h := expired_eq_oldestFirst records 1
  refine ⟨?_, h.2.1 _ (List.reverse_perm records), h.2.2.1 _ (by decide)⟩
  decide

end GaleraOperator.Backup
