import GaleraOperator.Naming
import GaleraOperator.Proofs.Dict

/-!
# What a selector asks for

The selector of labels asks for these labels and no others, as long as their keys contain neither of the two separators
and their values no comma. So it is the selector of no other labels; and if the values contain no equals sign either,
cutting it at both separators leaves the keys and the values.
-/

namespace GaleraOperator

namespace Labels

/-- Whether the text of labels tells them apart. -/
def Separable (labels : Labels) : Prop :=
  ∀ pair ∈ labels.toList, ',' ∉ pair.1.toList ∧ '=' ∉ pair.1.toList ∧ ',' ∉ pair.2.toList

/-- Whether neither separator stands anywhere in labels. -/
structure IsPlain (labels : Labels) : Prop where
  separable : labels.Separable
  values : ∀ pair ∈ labels.toList, '=' ∉ pair.2.toList

/-- The keys of the labels that the operator selects by. -/
def ownKeys : List String :=
  [clusterLabel, ancestorLabel, instanceLabel, componentLabel, managedByLabel, "app.kubernetes.io/name",
    "app.kubernetes.io/part-of"]

/-- The keys of the operator hold no separator, so its labels can be told apart if their values can. -/
theorem separable_ofList {pairs : List (String × String)} (hkeys : ∀ pair ∈ pairs, pair.1 ∈ ownKeys)
    (hvalues : ∀ pair ∈ pairs, ',' ∉ pair.2.toList) : Separable (.ofList pairs) := by
  have hown : ∀ key ∈ ownKeys, ',' ∉ key.toList ∧ '=' ∉ key.toList := by decide +kernel
  intro pair hpair
  have hmem := Dict.mem_of_mem_ofList hpair
  obtain ⟨hcomma, hequals⟩ := hown pair.1 (hkeys pair hmem)
  exact ⟨hcomma, hequals, hvalues pair hmem⟩

/-- The labels of the pods of a component can be told apart if the names can. -/
theorem separable_componentLabels {cluster component : String} (hcluster : ',' ∉ cluster.toList)
    (hcomponent : ',' ∉ component.toList) : Separable (componentLabels cluster component) := by
  have hfixed : ',' ∉ "xtradb-cluster".toList ∧ ',' ∉ managerName.toList := by decide +kernel
  exact separable_ofList (by simp [ownKeys]) (by simp [hcluster, hcomponent, hfixed])

/-- The label of a cluster can be told from others if the name of the cluster can. -/
theorem separable_clusterLabel {cluster : String} (hcluster : ',' ∉ cluster.toList) :
    Separable (.ofList [(clusterLabel, cluster)]) :=
  separable_ofList (by simp [ownKeys]) (by simp [hcluster])

/-- The labels of what is made for a schedule can be told apart if the names can. -/
theorem separable_scheduleLabels {cluster job : String} (hcluster : ',' ∉ cluster.toList) (hjob : ',' ∉ job.toList) :
    Separable (scheduleLabels cluster job) := by
  have hmanager : ',' ∉ managerName.toList := by decide +kernel
  exact separable_ofList (by simp [ownKeys]) (by simp [hcluster, hjob, hmanager])

end Labels

namespace Selector

variable {separator : Char}

/-- Cutting at every separator is what the library calls splitting. -/
theorem splitAll_eq_splitOn (cs : List Char) : splitAll separator cs = cs.splitOn separator := by
  induction cs with
  | nil => rfl
  | cons c cs ih =>
    rw [List.splitOn_cons_eq_if_modifyHead, splitAll, ih]
    by_cases h : c = separator
    · simp [h]
    · simp only [h, if_false, beq_iff_eq]
      cases hsplit : cs.splitOn separator with
      | nil => exact absurd hsplit (List.splitOn_ne_nil separator cs)
      | cons part parts => rfl

/-- A key ends at the first separator. -/
theorem splitFirst_append {key : List Char} (value : List Char) (h : separator ∉ key) :
    splitFirst separator (key ++ separator :: value) = (key, value) := by
  have hkey : ∀ c ∈ key, decide (c ≠ separator) = true := by
    intro c hc
    rw [decide_eq_true_eq]
    rintro rfl
    exact h hc
  simp only [splitFirst, List.takeWhile_append_of_pos hkey, List.dropWhile_append_of_pos hkey]
  simp

theorem toList_selector (labels : Labels) : labels.selector.toList =
    [','].intercalate (labels.toList.map fun pair ↦ pair.1.toList ++ '=' :: pair.2.toList) := by
  rw [Labels.selector, String.toList_intercalate, List.map_map]
  congr 1
  refine List.map_congr_left fun pair _ ↦ ?_
  simp [Labels.pairText]

section Reading

variable {labels other : Labels}

/-- At its commas the selector of labels comes apart into the labels. -/
theorem splitAll_selector (h : labels.Separable) (hlabels : labels.toList ≠ []) :
    splitAll ',' labels.selector.toList = labels.toList.map fun pair ↦ pair.1.toList ++ '=' :: pair.2.toList := by
  rw [splitAll_eq_splitOn, toList_selector, List.splitOn_intercalate]
  · intro part hpart
    obtain ⟨pair, hpair, rfl⟩ := List.mem_map.1 hpart
    obtain ⟨hkey, -, hvalue⟩ := h pair hpair
    simp [hkey, hvalue]
  · simpa using hlabels

theorem isEmpty_selector : labels.selector.isEmpty = true ↔ labels.toList = [] := by
  rw [String.isEmpty_iff, ← String.toList_eq_nil_iff, toList_selector]
  constructor
  · intro hempty
    -- every label has at least its equals sign in the text
    cases hlabels : labels.toList with
    | nil => rfl
    | cons pair pairs => cases pairs <;> simp [hlabels] at hempty
  · intro hlabels
    rw [hlabels]
    rfl

/-- The labels that the selector of labels asks for. -/
theorem parse_selector (h : labels.Separable) : parse labels.selector = labels.toList := by
  rw [parse]
  split
  · next hempty => rw [isEmpty_selector.1 hempty]
  · next hnonempty =>
    rw [splitAll_selector h (mt isEmpty_selector.2 hnonempty), List.map_map]
    refine (List.map_congr_left fun pair hpair ↦ ?_).trans (List.map_id _)
    obtain ⟨-, hkey, -⟩ := h pair hpair
    simp [splitFirst_append _ hkey]

/-- Different labels have different selectors. -/
theorem selector_inj (h : labels.Separable) (hother : other.Separable) :
    labels.selector = other.selector ↔ labels = other := by
  refine ⟨fun hselector ↦ Dict.ext ?_, congrArg _⟩
  rw [← parse_selector h, hselector, parse_selector hother]

/-- What the commas leave of a selector, each cut at its equals signs; the empty text has no labels. -/
def parts (text : String) : List (List String) :=
  if text.isEmpty then []
  else (splitAll ',' text.toList).map fun part ↦ (splitAll '=' part).map String.ofList

/-- A label comes apart into its key and its value. -/
theorem splitAll_pair {key value : List Char} (hkey : '=' ∉ key) (hvalue : '=' ∉ value) :
    splitAll '=' (key ++ '=' :: value) = [key, value] := by
  rw [splitAll_eq_splitOn, List.splitOn_append_cons_self, List.splitOn_eq_singleton hkey,
    List.splitOn_eq_singleton hvalue, List.singleton_append]

theorem parts_selector (h : labels.IsPlain) :
    parts labels.selector = labels.toList.map fun pair ↦ [pair.1, pair.2] := by
  rw [parts]
  split
  · next hempty => rw [isEmpty_selector.1 hempty, List.map_nil]
  · next hnonempty =>
    rw [splitAll_selector h.separable (mt isEmpty_selector.2 hnonempty), List.map_map]
    refine List.map_congr_left fun pair hpair ↦ ?_
    obtain ⟨-, hkey, -⟩ := h.separable pair hpair
    simp [splitAll_pair hkey (h.values pair hpair)]

end Reading

/-- A selector of labels accepts what carries all of them. -/
theorem accepts_selector {labels other : Labels} (h : labels.Separable) :
    accepts labels.selector other = true ↔ ∀ key value, labels.get? key = some value → other.get? key = some value := by
  simp [accepts, parse_selector h, Dict.mem_toList_iff]

/-- A selector of labels accepts the labels. -/
theorem accepts_selector_self {labels : Labels} (h : labels.Separable) : accepts labels.selector labels = true :=
  (accepts_selector h).2 fun _ _ ↦ id

/-- What is accepted carries the last label of the selector, whatever stands before that. -/
theorem get?_of_accepts {front key value : String} {labels : Labels} (hkey : ',' ∉ key.toList)
    (hkey' : '=' ∉ key.toList) (hvalue : ',' ∉ value.toList)
    (h : accepts (front ++ "," ++ Labels.pairText (key, value)) labels = true) : labels.get? key = some value := by
  have htext : (front ++ "," ++ Labels.pairText (key, value)).toList =
      front.toList ++ ',' :: (key.toList ++ '=' :: value.toList) := by
    simp [Labels.pairText]
  have hlast : ',' ∉ key.toList ++ '=' :: value.toList := by simp [hkey, hvalue]
  have hnonempty : (front ++ "," ++ Labels.pairText (key, value)).isEmpty = false := by
    rw [Bool.eq_false_iff]
    intro hempty
    rw [String.isEmpty_iff.1 hempty] at htext
    simp at htext
  have hmem : (key, value) ∈ parse (front ++ "," ++ Labels.pairText (key, value)) := by
    rw [parse, hnonempty, htext, splitAll_eq_splitOn, List.splitOn_append_cons_self, List.splitOn_eq_singleton hlast]
    simp [splitFirst_append _ hkey']
  exact of_decide_eq_true (List.all_eq_true.1 h (key, value) hmem)

end Selector

end GaleraOperator
