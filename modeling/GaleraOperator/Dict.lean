/-!
# Dictionaries ordered by key

Labels, annotations, capacities and everything else that is looked up by name. The entries are kept in strictly
ascending order of their keys, so a dictionary is determined by what it holds, and listing it is deterministic.
`get?_insert` and `get?_erase` say what the two updates do to every key.
-/

namespace GaleraOperator

/-- Entries with distinct keys, in ascending order of the keys. -/
structure Dict (α : Type) where
  toList : List (String × α)
  sorted : toList.Pairwise fun a b ↦ a.1 < b.1

namespace Dict

variable {α β : Type}

@[ext] theorem ext {d e : Dict α} (h : d.toList = e.toList) : d = e := by
  cases d; cases e; cases h; rfl

instance [DecidableEq α] : DecidableEq (Dict α) := fun d e ↦
  if h : d.toList = e.toList then .isTrue (ext h) else .isFalse fun he ↦ h (he ▸ rfl)

instance [Repr α] : Repr (Dict α) := ⟨fun d n ↦ reprPrec d.toList n⟩

/-- The dictionary without entries. -/
def empty : Dict α := ⟨[], .nil⟩

instance : Inhabited (Dict α) := ⟨empty⟩

/-- Put an entry into ordered entries, in the place of one with the same key. -/
def insertEntry (key : String) (value : α) : List (String × α) → List (String × α)
  | [] => [(key, value)]
  | entry :: rest =>
    if key < entry.1 then (key, value) :: entry :: rest
    else if entry.1 < key then entry :: insertEntry key value rest
    else (key, value) :: rest

theorem eq_of_not_lt {a b : String} (h : ¬a < b) (h' : ¬b < a) : a = b :=
  String.le_antisymm (String.not_lt.1 h') (String.not_lt.1 h)

theorem mem_insertEntry {key : String} {value : α} {entries : List (String × α)} {entry : String × α}
    (h : entry ∈ insertEntry key value entries) : entry = (key, value) ∨ entry ∈ entries := by
  induction entries with
  | nil => simpa [insertEntry] using h
  | cons first rest ih =>
    simp only [insertEntry] at h
    split at h
    · simpa using h
    · split at h
      · rcases List.mem_cons.1 h with rfl | h
        · simp
        · rcases ih h with h | h
          · exact .inl h
          · exact .inr (List.mem_cons_of_mem _ h)
      · rcases List.mem_cons.1 h with rfl | h
        · simp
        · exact .inr (List.mem_cons_of_mem _ h)

theorem insertEntry_sorted (key : String) (value : α) {entries : List (String × α)}
    (h : entries.Pairwise fun a b ↦ a.1 < b.1) :
    (insertEntry key value entries).Pairwise fun a b ↦ a.1 < b.1 := by
  induction entries with
  | nil => simp [insertEntry]
  | cons first rest ih =>
    obtain ⟨hfirst, hrest⟩ := List.pairwise_cons.1 h
    simp only [insertEntry]
    split
    · next hlt =>
      refine List.pairwise_cons.2 ⟨fun entry he ↦ ?_, h⟩
      rcases List.mem_cons.1 he with rfl | he
      · exact hlt
      · exact String.lt_trans hlt (hfirst entry he)
    · split
      · next hgt =>
        refine List.pairwise_cons.2 ⟨fun entry he ↦ ?_, ih hrest⟩
        rcases mem_insertEntry he with rfl | he
        · exact hgt
        · exact hfirst entry he
      · next hlt hgt =>
        cases eq_of_not_lt hlt hgt
        exact List.pairwise_cons.2 ⟨hfirst, hrest⟩

/-- Put an entry in, in the place of the one with the same key. -/
def insert (d : Dict α) (key : String) (value : α) : Dict α :=
  ⟨insertEntry key value d.toList, insertEntry_sorted key value d.sorted⟩

/-- Keep the entries whose key passes a test. -/
def retain (d : Dict α) (keep : String → Bool) : Dict α :=
  ⟨d.toList.filter fun entry ↦ keep entry.1, d.sorted.filter _⟩

/-- Take an entry out. -/
def erase (d : Dict α) (key : String) : Dict α := d.retain (· != key)

/-- The value under a key. -/
def get? (d : Dict α) (key : String) : Option α := d.toList.lookup key

/-- Whether a key has a value. -/
def contains (d : Dict α) (key : String) : Bool := (d.get? key).isSome

/-- The keys, ascending. -/
def keys (d : Dict α) : List String := d.toList.map Prod.fst

/-- The values in the order of their keys. -/
def values (d : Dict α) : List α := d.toList.map Prod.snd

/-- The number of entries. -/
def size (d : Dict α) : Nat := d.toList.length

/-- Whether there are no entries. -/
def isEmpty (d : Dict α) : Bool := d.toList.isEmpty

/-- Enter pairs one after the other; a later pair replaces an earlier one with the same key. -/
def ofList (pairs : List (String × α)) : Dict α :=
  pairs.foldl (fun d (key, value) ↦ d.insert key value) empty

theorem lookup_insertEntry (key other : String) (value : α) (entries : List (String × α)) :
    (insertEntry key value entries).lookup other =
      if other = key then some value else entries.lookup other := by
  induction entries with
  | nil =>
    by_cases h : other = key
    · simp [insertEntry, h]
    · simp [insertEntry, h, List.lookup_cons, beq_false_of_ne h]
  | cons first rest ih =>
    obtain ⟨name, old⟩ := first
    simp only [insertEntry]
    split
    · by_cases h : other = key
      · simp [h]
      · simp [h, List.lookup_cons, beq_false_of_ne h]
    · split
      · next hgt =>
        simp only [List.lookup_cons, ih]
        by_cases h : other = key
        · subst h
          have : other ≠ name := fun he ↦ String.lt_irrefl _ (he ▸ hgt)
          simp [beq_false_of_ne this]
        · simp [h]
      · next hlt hgt =>
        cases eq_of_not_lt hlt hgt
        by_cases h : other = key
        · simp [h]
        · simp [h, List.lookup_cons, beq_false_of_ne h]

/-- After an insertion the key has the new value and every other key what it had. -/
@[simp] theorem get?_insert (d : Dict α) (key other : String) (value : α) :
    (d.insert key value).get? other = if other = key then some value else d.get? other :=
  lookup_insertEntry key other value d.toList

theorem lookup_filter (keep : String → Bool) (key : String) (entries : List (String × α)) :
    (entries.filter fun entry ↦ keep entry.1).lookup key =
      if keep key then entries.lookup key else none := by
  induction entries with
  | nil => simp
  | cons first rest ih =>
    obtain ⟨name, old⟩ := first
    by_cases hk : keep name <;> by_cases h : key = name
    · subst h; simp [hk]
    · simp [hk, List.lookup_cons, beq_false_of_ne h, ih]
    · subst h; simp [hk, ih]
    · simp [hk, List.lookup_cons, beq_false_of_ne h, ih]

/-- Keeping by key leaves the kept keys as they were and removes the others. -/
@[simp] theorem get?_retain (d : Dict α) (keep : String → Bool) (key : String) :
    (d.retain keep).get? key = if keep key then d.get? key else none :=
  lookup_filter keep key d.toList

/-- After a removal the key has no value and every other key what it had. -/
@[simp] theorem get?_erase (d : Dict α) (key other : String) :
    (d.erase key).get? other = if other = key then none else d.get? other := by
  by_cases h : other = key <;> simp [erase, h]

@[simp] theorem get?_empty (key : String) : (empty : Dict α).get? key = none := rfl

end Dict

end GaleraOperator
