import GaleraOperator.Dict
import Mathlib

/-!
# Entries of dictionaries

The entries of a dictionary are its keys with their values, and a dictionary that was made from pairs with different
keys has these pairs as its entries.
-/

namespace GaleraOperator.Dict

variable {α : Type} {d : Dict α} {key : String} {value : α} {pairs : List (String × α)} {pair : String × α}

/-- Among entries with different keys each is found under its key. -/
theorem lookup_eq_some_iff_mem {entries : List (String × α)} (h : (entries.map Prod.fst).Nodup) :
    entries.lookup key = some value ↔ (key, value) ∈ entries := by
  induction entries with
  | nil => simp
  | cons first rest ih =>
    obtain ⟨name, old⟩ := first
    obtain ⟨hname, hrest⟩ := List.nodup_cons.1 h
    by_cases hkey : key = name
    · subst hkey
      have hnot : (key, value) ∉ rest := fun hmem ↦ hname (List.mem_map.2 ⟨_, hmem, rfl⟩)
      simp [hnot, eq_comm]
    · simp [List.lookup_cons, beq_false_of_ne hkey, hkey, ih hrest]

theorem lookup_eq_none {entries : List (String × α)} (h : key ∉ entries.map Prod.fst) : entries.lookup key = none := by
  refine List.lookup_eq_none_iff.2 fun entry hentry ↦ bne_iff_ne.2 ?_
  rintro rfl
  exact h (List.mem_map_of_mem hentry)

/-- The keys of a dictionary are different. -/
theorem nodup_keys (d : Dict α) : (d.toList.map Prod.fst).Nodup := by
  refine List.pairwise_map.2 (d.sorted.imp ?_)
  intro a b hlt heq
  exact String.lt_irrefl _ (heq ▸ hlt)

/-- An entry is a key with its value. -/
theorem mem_toList_iff : (key, value) ∈ d.toList ↔ d.get? key = some value := (lookup_eq_some_iff_mem d.nodup_keys).symm

private theorem mem_foldl_insert
    (h : pair ∈ (pairs.foldl (fun d (key, value) ↦ d.insert key value) d).toList) : pair ∈ pairs ∨ pair ∈ d.toList := by
  induction pairs generalizing d with
  | nil => exact .inr h
  | cons first rest ih =>
    rcases ih h with hrest | hinsert
    · exact .inl (List.mem_cons_of_mem _ hrest)
    · rcases mem_insertEntry hinsert with rfl | hd
      · exact .inl (List.mem_cons_self ..)
      · exact .inr hd

/-- The entries of a dictionary are among the pairs that it was made from. -/
theorem mem_of_mem_ofList (h : pair ∈ (ofList pairs).toList) : pair ∈ pairs :=
  (mem_foldl_insert h).resolve_right List.not_mem_nil

private theorem get?_foldl_insert (h : key ∉ pairs.map Prod.fst) :
    (pairs.foldl (fun d (key, value) ↦ d.insert key value) d).get? key = d.get? key := by
  induction pairs generalizing d with
  | nil => rfl
  | cons first rest ih =>
    rw [List.map_cons, List.mem_cons, not_or] at h
    rw [List.foldl_cons, ih h.2]
    simp [h.1]

private theorem get?_foldl_insert_of_mem (hmem : (key, value) ∈ pairs) (h : (pairs.map Prod.fst).Nodup) :
    (pairs.foldl (fun d (key, value) ↦ d.insert key value) d).get? key = some value := by
  induction pairs generalizing d with
  | nil => cases hmem
  | cons first rest ih =>
    obtain ⟨hfirst, hrest⟩ := List.nodup_cons.1 h
    rcases List.mem_cons.1 hmem with rfl | hmem
    · rw [List.foldl_cons, get?_foldl_insert hfirst]
      simp
    · exact ih hmem hrest

/-- Pairs with different keys are the entries of the dictionary that is made from them. -/
theorem mem_ofList_iff (h : (pairs.map Prod.fst).Nodup) : pair ∈ (ofList pairs).toList ↔ pair ∈ pairs := by
  refine ⟨mem_of_mem_ofList, fun hmem ↦ ?_⟩
  obtain ⟨key, value⟩ := pair
  exact mem_toList_iff.2 (get?_foldl_insert_of_mem hmem h)

theorem contains_iff_mem_keys : d.contains key = true ↔ key ∈ d.keys := by
  rw [contains, Option.isSome_iff_exists, keys, List.mem_map]
  constructor
  · rintro ⟨value, hvalue⟩
    exact ⟨(key, value), mem_toList_iff.2 hvalue, rfl⟩
  · rintro ⟨⟨_, value⟩, hmem, rfl⟩
    exact ⟨value, mem_toList_iff.1 hmem⟩

private theorem contains_foldl_insert :
    (pairs.foldl (fun d (key, value) ↦ d.insert key value) d).contains key = true ↔
      key ∈ pairs.map Prod.fst ∨ d.contains key = true := by
  induction pairs generalizing d with
  | nil => simp
  | cons first rest ih =>
    rw [List.foldl_cons, ih, List.map_cons, List.mem_cons]
    by_cases hkey : key = first.1 <;> simp [contains, hkey]

/-- The keys of a dictionary that was made from pairs are theirs. -/
theorem contains_ofList_iff : (ofList pairs).contains key = true ↔ key ∈ pairs.map Prod.fst :=
  contains_foldl_insert.trans (or_iff_left (by simp [contains]))

theorem ofList_append_singleton (pairs : List (String × α)) (pair : String × α) :
    ofList (pairs ++ [pair]) = (ofList pairs).insert pair.1 pair.2 := by
  rw [ofList, List.foldl_append]
  rfl

/-- A dictionary is made from its own entries. -/
theorem ofList_toList (d : Dict α) : ofList d.toList = d := by
  have hnodup (e : Dict α) : e.toList.Nodup := e.nodup_keys.of_map Prod.fst
  have hperm : List.Perm (ofList d.toList).toList d.toList :=
    (List.perm_ext_iff_of_nodup (hnodup _) (hnodup _)).2 fun _ ↦ mem_ofList_iff d.nodup_keys
  refine ext (hperm.eq_of_pairwise ?_ (ofList d.toList).sorted d.sorted)
  intro a b _ _ hab hba
  exact absurd (String.lt_trans hab hba) (String.lt_irrefl _)

end GaleraOperator.Dict
