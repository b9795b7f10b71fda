import GaleraOperator.Proofs.Backup.Pruning

/-!
# Whose objects a selector finds

The operator finds what it owns by selectors alone: the pods and the claims of a component, the jobs of a cluster, and
the records of a job. The text of a selector tells its labels, and the labels tell whose objects they are on, so no text
is the selector of two owners.
-/

namespace GaleraOperator

/-- What labels are made for. -/
inductive Owner where
  /-- The pods of a component of a cluster, and their claims. -/
  | component (cluster name : String)
  /-- All jobs of a cluster. -/
  | jobs (cluster : String)
  /-- What is made for the schedule of a job. -/
  | schedule (cluster job : String)
  /-- The records of a job. -/
  | records (cluster job : String)
  deriving DecidableEq

namespace Owner

/-- The labels by which its objects are found. -/
def labels : Owner → Labels
  | component cluster name => componentLabels cluster name
  | jobs cluster => .ofList [(clusterLabel, cluster)]
  | schedule cluster job => scheduleLabels cluster job
  | records cluster job => Schedules.recordLabels cluster job

/-- The names that its labels are made from. -/
def names : Owner → List String
  | component cluster name => [cluster, name]
  | jobs cluster => [cluster]
  | schedule cluster job => [cluster, job]
  | records cluster job => [cluster, job]

/-- Whose labels these are. -/
def ofLabels? (labels : Labels) : Option Owner :=
  match labels.get? clusterLabel, labels.get? ancestorLabel with
  | none, _ => return .component (← labels.get? instanceLabel) (← labels.get? componentLabel)
  | some cluster, none => some (.jobs cluster)
  | some cluster, some job =>
    some (if labels.contains managedByLabel then .schedule cluster job else .records cluster job)

theorem get?_componentLabels (cluster name : String) :
    (componentLabels cluster name).get? clusterLabel = none ∧
    (componentLabels cluster name).get? instanceLabel = some cluster ∧
    (componentLabels cluster name).get? componentLabel = some name := by
  have hkeys : clusterLabel ∉ ["app.kubernetes.io/name", instanceLabel, componentLabel, managedByLabel,
      "app.kubernetes.io/part-of"] ∧ instanceLabel ∉ [componentLabel, managedByLabel, "app.kubernetes.io/part-of"] ∧
      componentLabel ∉ [managedByLabel, "app.kubernetes.io/part-of"] := by decide +kernel
  simp only [List.mem_cons, List.not_mem_nil, or_false, not_or] at hkeys
  simp [componentLabels, Dict.ofList, hkeys]

theorem get?_scheduleLabels (cluster job key : String) :
    (scheduleLabels cluster job).get? key =
      if key = managedByLabel then some managerName
      else if key = ancestorLabel then some job
      else if key = clusterLabel then some cluster else none := by
  simp [scheduleLabels, Dict.ofList]

/-- The labels tell whose they are. -/
theorem ofLabels?_labels (o : Owner) : ofLabels? o.labels = some o := by
  have hkeys : ancestorLabel ≠ clusterLabel ∧ managedByLabel ≠ clusterLabel ∧ managedByLabel ≠ ancestorLabel := by
    decide +kernel
  obtain ⟨hancestor, hmanager, hmanager'⟩ := hkeys
  cases o with
  | component cluster name =>
    obtain ⟨hcluster, hinstance, hcomponent⟩ := get?_componentLabels cluster name
    simp [ofLabels?, labels, hcluster, hinstance, hcomponent]
  | jobs cluster => simp [ofLabels?, labels, Dict.ofList, hancestor]
  | schedule cluster job =>
    simp [ofLabels?, labels, get?_scheduleLabels, Dict.contains, hancestor.symm, hmanager.symm, hmanager'.symm]
  | records cluster job =>
    simp [ofLabels?, labels, Schedules.get?_recordLabels, Dict.contains, hancestor.symm, hmanager, hmanager']

theorem separable_labels {o : Owner} (h : ∀ name ∈ o.names, ',' ∉ name.toList) : o.labels.Separable := by
  cases o with
  | component cluster name =>
    simp only [names, List.forall_mem_cons] at h
    exact Labels.separable_componentLabels h.1 h.2.1
  | jobs cluster => exact Labels.separable_clusterLabel (h cluster (List.mem_singleton_self cluster))
  | schedule cluster job =>
    simp only [names, List.forall_mem_cons] at h
    exact Labels.separable_scheduleLabels h.1 h.2.1
  | records cluster job =>
    simp only [names, List.forall_mem_cons] at h
    exact Schedules.separable_recordLabels h.1 h.2.1

/-- The text of a selector tells whose objects it finds. -/
theorem ofLabels?_parse_selector {o : Owner} (h : ∀ name ∈ o.names, ',' ∉ name.toList) :
    ofLabels? (.ofList (Selector.parse o.labels.selector)) = some o := by
  rw [Selector.parse_selector (separable_labels h), Dict.ofList_toList, ofLabels?_labels]

/-- Different owners have different selectors. -/
theorem selector_inj {o o' : Owner} (h : ∀ name ∈ o.names ++ o'.names, ',' ∉ name.toList) :
    o.labels.selector = o'.labels.selector ↔ o = o' := by
  obtain ⟨ho, ho'⟩ := List.forall_mem_append.1 h
  refine ⟨fun hselector ↦ Option.some_inj.1 ?_, fun howner ↦ howner ▸ rfl⟩
  rw [← ofLabels?_parse_selector ho, hselector, ofLabels?_parse_selector ho']

end Owner

/-- Cut at both separators the selector of labels leaves their keys and values, in the order of the keys, if neither
separator stands in them. Different labels have different selectors, whose values may even hold an equals sign, and so
have the labels of different owners. -/
theorem selector_unambiguous :
    (∀ labels : Labels, labels.IsPlain →
      Selector.parts labels.selector = labels.toList.map fun pair ↦ [pair.1, pair.2]) ∧
    (∀ labels other : Labels, labels.Separable → other.Separable →
      (labels.selector = other.selector ↔ labels = other)) ∧
    ∀ o o' : Owner, (∀ name ∈ o.names ++ o'.names, ',' ∉ name.toList) →
      (o.labels.selector = o'.labels.selector ↔ o = o') :=
  ⟨fun _ ↦ Selector.parts_selector, fun _ _ ↦ Selector.selector_inj, fun _ _ ↦ Owner.selector_inj⟩

/-- One key begins another, and its value is empty. -/
private def nested : Labels := .ofList [("app.kubernetes.io", "db"), ("app", "")]

private def filled : Labels := nested.insert "app" "db"

/-- An empty value is read back, a change of a value changes the text, and the records of a job are found by another
text than what is made for its schedule. -/
theorem selector_unambiguous_nested :
    (nested.IsPlain ∧ Selector.parts nested.selector = [["app", ""], ["app.kubernetes.io", "db"]]) ∧
    (nested.Separable ∧ filled.Separable ∧ nested.selector ≠ filled.selector) ∧
    (∀ name ∈ (Owner.records "db" "daily").names ++ (Owner.schedule "db" "daily").names, ',' ∉ name.toList) ∧
    (Owner.records "db" "daily").labels.selector ≠ (Owner.schedule "db" "daily").labels.selector := by
  have hplain : nested.IsPlain := ⟨by unfold Labels.Separable; decide +kernel, by decide +kernel⟩
  have hfilled : filled.Separable := by unfold Labels.Separable; decide +kernel
  have hnames : ∀ name ∈ (Owner.records "db" "daily").names ++ (Owner.schedule "db" "daily").names,
      ',' ∉ name.toList := by decide +kernel
  refine ⟨⟨hplain, ?_⟩, ⟨hplain.separable, hfilled, ?_⟩, hnames, ?_⟩
  · rw [selector_unambiguous.1 nested hplain]
    decide +kernel
  · exact mt (selector_unambiguous.2.1 _ _ hplain.separable hfilled).1 (by decide +kernel)
  · exact mt (selector_unambiguous.2.2 _ _ hnames).1 nofun

/-- With a comma in a value the text is that of other labels as well. -/
example : Labels.selector (.ofList [("app", "db,tier=web")]) =
    Labels.selector (.ofList [("app", "db"), ("tier", "web")]) := by decide +kernel

end GaleraOperator
