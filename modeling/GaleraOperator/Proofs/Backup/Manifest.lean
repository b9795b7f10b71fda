import GaleraOperator.Proofs.Backup.JobSteps
import GaleraOperator.Proofs.Naming

/-!
# What the runs of a job leave

A run of a job hands a manifest to the interface of the cluster. The manifest stands in a here-document: the shell puts
the time of the run in the place of the command that gives it, and the interface reads the record line by line. The
record carries the name of the job as a label, by which retention finds it again, but its own name is made from the
cluster, the storage and the second. So two jobs of a cluster that run at the same second leave two records exactly if
their storages have different names after these were cut to sixteen characters; otherwise the second record takes the
place of the first, and with it the label.
-/

namespace GaleraOperator

open Kube

namespace Manifest

/-- A character that the shell does not take as it is in a here-document. -/
def isExpanded (c : Char) : Bool := c = '$' || c = '`' || c = '\\'

/-- A character that does not stand for itself in a value. -/
def isSpecial (c : Char) : Bool := isExpanded c || c = '"' || c = '\n'

/-- A text that stands for itself in a value. -/
def Plain (s : String) : Prop := ∀ c ∈ s.toList, isSpecial c = false

/-- The lines of the here-document that a script hands to the interface. -/
def hereDocument? (script : String) : Option (List (List Char)) :=
  match script.toList.splitOn '\n' with
  | [] => none
  | command :: rest =>
    if command = "cat <<EOF | kubectl apply -f -".toList then some (rest.takeWhile (· ≠ "EOF".toList)) else none

/-- What the shell makes of a line, at some time: the time stands in the place of the command that gives it. Nothing
else is read that the shell does not take as it is. The number is how much of the command is still to be passed. -/
def expand (stamp : List Char) : Nat → List Char → Option (List Char)
  | _, [] => some []
  | left + 1, _ :: cs => expand stamp left cs
  | 0, c :: cs =>
    if Backup.runTime.toList.isPrefixOf (c :: cs) then
      (expand stamp (Backup.runTime.toList.length - 1) cs).map (stamp ++ ·)
    else if isExpanded c then none
    else (expand stamp 0 cs).map (c :: ·)

/-- A line of a manifest: how far it stands to the right, its key, and its value, unless that are the lines below. -/
structure Line where
  indent : Nat
  key : String
  value? : Option String
  deriving DecidableEq

/-- The value behind a key. -/
def readValue : List Char → Option (Option String)
  | [':'] => some none
  | ':' :: ' ' :: '"' :: rest =>
    if rest.getLast? = some '"' && !rest.dropLast.any isSpecial then some (some (String.ofList rest.dropLast)) else none
  | ':' :: ' ' :: rest => if rest.any isSpecial then none else some (some (String.ofList rest))
  | _ => none

/-- A line as it is after the shell. -/
def readLine (cs : List Char) : Option Line := do
  let entry := cs.dropWhile (· = ' ')
  let value? ← readValue (entry.dropWhile (· ≠ ':'))
  return ⟨(cs.takeWhile (· = ' ')).length, String.ofList (entry.takeWhile (· ≠ ':')), value?⟩

/-- The values of a manifest with the keys that lead to them, where some keys led to the line before. -/
def entries : List String → List Line → List (List String × String)
  | _, [] => []
  | path, line :: rest =>
    let here := path.take (line.indent / 2) ++ [line.key]
    match line.value? with
    | none => entries here rest
    | some value => (here, value) :: entries here rest

/-- A label among the values of a manifest. -/
def label? : List String × String → Option (String × String)
  | (["metadata", "labels", key], value) => some (key, value)
  | _ => none

/-- The record that a manifest describes. -/
def record? (values : List (List String × String)) : Option Backup := do
  if values.lookup ["apiVersion"] ≠ some apiVersion || values.lookup ["kind"] ≠ some backupKind then none
  let ns ← values.lookup ["metadata", "namespace"]
  let name ← values.lookup ["metadata", "name"]
  let cluster ← values.lookup ["spec", "pxcCluster"]
  let storage ← values.lookup ["spec", "storageName"]
  return {
    metadata := { ObjectMeta.empty with
      name := some name
      ns? := some ns
      labels := some (.ofList (values.filterMap label?)) }
    spec := ⟨cluster, storage⟩
    status := none }

/-- The record that a script leaves at some time. -/
def recordOfScript? (stamp script : String) : Option Backup := do
  let lines ← (← hereDocument? script).mapM fun line ↦ (expand stamp.toList 0 line).bind readLine
  record? (entries [] lines)

/-- The record that a run of a job leaves at some time. -/
def recordOfRun? (stamp : String) (job : CronJob) : Option Backup := do
  let container ← job.container?
  match container.command, container.args with
  | some ["sh", "-c"], some [script] => recordOfScript? stamp script
  | _, _ => none

section Expand

variable {stamp raw raw' value value' front cs : List Char}

/-- Wherever a text stands, the shell makes another one of it. -/
def Expands (stamp raw value : List Char) : Prop :=
  ∀ cs, expand stamp 0 (raw ++ cs) = (expand stamp 0 cs).map (value ++ ·)

theorem Expands.append (h : Expands stamp raw value) (h' : Expands stamp raw' value') :
    Expands stamp (raw ++ raw') (value ++ value') := by
  intro cs
  rw [List.append_assoc, h, h', Option.map_map]
  simp [Function.comp_def]

theorem Expands.eq_some (h : Expands stamp raw value) : expand stamp 0 raw = some value := by
  have hend := h []
  simpa [expand] using hend

theorem runTime_eq_cons : Backup.runTime.toList = '$' :: Backup.runTime.toList.tail := by decide +kernel

/-- What the shell takes as it is. -/
theorem expands_self (h : ∀ c ∈ front, isExpanded c = false) : Expands stamp front front := by
  intro cs
  induction front with
  | nil => simp
  | cons c front ih =>
    obtain ⟨hc, hfront⟩ := List.forall_mem_cons.1 h
    have hne : ¬Backup.runTime.toList.isPrefixOf (c :: (front ++ cs)) = true := by
      rw [runTime_eq_cons, List.isPrefixOf]
      rintro hprefix
      obtain rfl : '$' = c := by simpa using (Bool.and_eq_true_iff.1 hprefix).1
      cases hc
    rw [List.cons_append, expand, if_neg hne, hc, if_neg Bool.false_ne_true, ih hfront, Option.map_map]
    rfl

theorem expand_length (stamp front cs : List Char) : expand stamp front.length (front ++ cs) = expand stamp 0 cs := by
  induction front with
  | nil => rfl
  | cons c front ih => exact ih

/-- The time takes the place of its command. -/
theorem expands_runTime : Expands stamp Backup.runTime.toList stamp := by
  intro cs
  have hprefix : Backup.runTime.toList.isPrefixOf ('$' :: (Backup.runTime.toList.tail ++ cs)) = true := by
    rw [← List.cons_append, ← runTime_eq_cons, List.isPrefixOf_iff_prefix]
    exact List.prefix_append _ _
  have hpass := expand_length stamp Backup.runTime.toList.tail cs
  rw [List.length_tail] at hpass
  rw [runTime_eq_cons, List.cons_append, expand, if_pos hprefix, hpass]

end Expand

section Lines

variable {stamp raw value key : String} {indent : Nat}

theorem Plain.expands (h : Plain value) (stamp : List Char) : Expands stamp value.toList value.toList := by
  refine expands_self fun c hc ↦ ?_
  have hspecial := h c hc
  simp only [isSpecial, Bool.or_eq_false_iff] at hspecial
  exact hspecial.1.1

theorem Plain.newline_not_mem (h : Plain value) : '\n' ∉ value.toList := fun hmem ↦ absurd (h _ hmem) (by decide)

/-- A character that keys are made of. -/
def isKeyChar (c : Char) : Bool := !isExpanded c && c ≠ ' ' && c ≠ ':' && c ≠ '\n'

theorem not_isExpanded_key (hkey : key.toList.all isKeyChar) : ∀ c ∈ key.toList, isExpanded c = false := by
  intro c hc
  have hchar := List.all_eq_true.1 hkey c hc
  simp only [isKeyChar, Bool.and_eq_true, Bool.not_eq_true'] at hchar
  exact hchar.1.1.1

theorem newline_not_mem_key (hkey : key.toList.all isKeyChar) : '\n' ∉ key.toList :=
  fun hmem ↦ absurd (List.all_eq_true.1 hkey _ hmem) (by decide)

theorem toList_manifestEntry (indent : Nat) (key value : String) : (Backup.manifestEntry indent key value).toList =
    List.replicate indent ' ' ++ (key.toList ++ (':' :: ' ' :: '"' :: (value.toList ++ ['"']))) := by
  simp [Backup.manifestEntry]

/-- What is read of an entry is its key and its value. -/
theorem readLine_entry (hkey : key.toList.all isKeyChar) (hvalue : Plain value) (indent : Nat) :
    readLine (Backup.manifestEntry indent key value).toList = some ⟨indent, key, some value⟩ := by
  have hblank : ∀ c ∈ List.replicate indent ' ', decide (c = ' ') = true := by simp
  have hstart : (key.toList ++ (':' :: ' ' :: '"' :: (value.toList ++ ['"']))).takeWhile (· = ' ') = [] ∧
      (key.toList ++ (':' :: ' ' :: '"' :: (value.toList ++ ['"']))).dropWhile (· = ' ') =
        key.toList ++ (':' :: ' ' :: '"' :: (value.toList ++ ['"'])) := by
    cases hchars : key.toList with
    | nil => exact ⟨rfl, rfl⟩
    | cons c rest =>
      rw [hchars, List.all_cons] at hkey
      have hc : c ≠ ' ' := by simp [isKeyChar] at hkey; tauto
      simp [hc]
  have hname : ∀ c ∈ key.toList, decide (c ≠ ':') = true := by
    intro c hc
    have hchar := List.all_eq_true.1 hkey c hc
    simp [isKeyChar] at hchar
    simp; tauto
  rw [toList_manifestEntry, readLine, List.takeWhile_append_of_pos hblank, List.dropWhile_append_of_pos hblank,
    hstart.1, hstart.2, List.takeWhile_append_of_pos hname, List.dropWhile_append_of_pos hname]
  have hplain : value.toList.any isSpecial = false := List.any_eq_false.2 fun c hc ↦ by simp [hvalue c hc]
  simp [readValue, hplain]

/-- What becomes of an entry in a here-document, if something becomes of its value. -/
theorem expand_entry (hkey : key.toList.all isKeyChar) (hraw : Expands stamp.toList raw.toList value.toList)
    (indent : Nat) : expand stamp.toList 0 (Backup.manifestEntry indent key raw).toList =
      some (Backup.manifestEntry indent key value).toList := by
  have hblank : Expands stamp.toList (List.replicate indent ' ') (List.replicate indent ' ') :=
    expands_self fun c hc ↦ by rw [List.eq_of_mem_replicate hc]; rfl
  have hname : Expands stamp.toList key.toList key.toList := expands_self (not_isExpanded_key hkey)
  have hquote : Expands stamp.toList ['"'] ['"'] := expands_self (by simp [isExpanded])
  have hsign : Expands stamp.toList [':', ' ', '"'] [':', ' ', '"'] := expands_self (by simp [isExpanded])
  rw [toList_manifestEntry, toList_manifestEntry]
  exact (hblank.append (hname.append (hsign.append (hraw.append hquote)))).eq_some

/-- An entry is read as its key with what becomes of its value. -/
theorem read_entry (hkey : key.toList.all isKeyChar) (hraw : Expands stamp.toList raw.toList value.toList)
    (hvalue : Plain value) (indent : Nat) :
    (expand stamp.toList 0 (Backup.manifestEntry indent key raw).toList).bind readLine =
      some ⟨indent, key, some value⟩ := by
  rw [expand_entry hkey hraw, Option.bind_some, readLine_entry hkey hvalue]

/-- A line that the shell takes as it is. -/
theorem read_constant {line : String} {read : Line} (h : line.toList.all (!isExpanded ·) = true)
    (hread : readLine line.toList = some read) :
    (expand stamp.toList 0 line.toList).bind readLine = some read := by
  have hself : Expands stamp.toList line.toList line.toList :=
    expands_self fun c hc ↦ by simpa using List.all_eq_true.1 h c hc
  rw [hself.eq_some, Option.bind_some, hread]

/-- A line that ends neither itself nor the here-document. -/
def IsInner (line : String) : Prop := '\n' ∉ line.toList ∧ ':' ∈ line.toList

instance (line : String) : Decidable (IsInner line) := inferInstanceAs (Decidable (_ ∧ _))

theorem isInner_entry (hkey : key.toList.all isKeyChar) (hraw : '\n' ∉ raw.toList) (indent : Nat) :
    IsInner (Backup.manifestEntry indent key raw) := by
  rw [IsInner, toList_manifestEntry]
  simp [newline_not_mem_key hkey, hraw]

/-- Lines that were put one after the other are found again. -/
theorem splitOn_lines {lines : List (List Char)} (h : ∀ line ∈ lines, '\n' ∉ line) :
    ((lines.map (· ++ ['\n'])).flatten).splitOn '\n' = lines ++ [[]] := by
  induction lines with
  | nil => rfl
  | cons line rest ih =>
    obtain ⟨hline, hrest⟩ := List.forall_mem_cons.1 h
    rw [List.map_cons, List.flatten_cons, List.append_assoc, List.singleton_append, List.splitOn,
      List.splitOnP_append_cons_of_forall_mem (fun c hc ↦ by simpa using ne_of_mem_of_not_mem hc hline) _ (by simp)]
    exact congrArg (line :: ·) (ih hrest)

/-- The inner lines of a script are what it hands over. -/
theorem hereDocument?_join {inner : List String} (h : ∀ line ∈ inner, IsInner line) :
    hereDocument? (String.join (("cat <<EOF | kubectl apply -f -" :: (inner ++ ["EOF"])).map (· ++ "\n"))) =
      some (inner.map String.toList) := by
  have hlines : ∀ line ∈ ("cat <<EOF | kubectl apply -f -" :: (inner ++ ["EOF"])).map String.toList, '\n' ∉ line := by
    simp only [List.map_cons, List.map_append, List.forall_mem_cons, List.forall_mem_append, List.forall_mem_map,
      List.map_nil]
    refine ⟨by simp, fun line hline ↦ (h line hline).1, by simp, List.forall_mem_nil _⟩
  have htext : (String.join (("cat <<EOF | kubectl apply -f -" :: (inner ++ ["EOF"])).map (· ++ "\n"))).toList =
      ((("cat <<EOF | kubectl apply -f -" :: (inner ++ ["EOF"])).map String.toList).map (· ++ ['\n'])).flatten := by
    simp [String.toList_join, List.flatMap_def, Function.comp_def]
  have hnever : ∀ line ∈ inner.map String.toList, decide (line ≠ "EOF".toList) = true := by
    rw [List.forall_mem_map]
    intro line hline
    rw [decide_eq_true_eq]
    rintro heq
    have hcolon := (h line hline).2
    rw [heq] at hcolon
    revert hcolon
    decide
  rw [hereDocument?, htext, splitOn_lines hlines, List.map_cons, List.cons_append, List.map_append, List.append_assoc]
  simp only [if_true]
  rw [List.takeWhile_append_of_pos hnever]
  simp

end Lines

section Script

variable {stamp ns cluster job storage a b : String}

theorem Plain.append (ha : Plain a) (hb : Plain b) : Plain (a ++ b) := by
  intro c hc
  rw [String.toList_append, List.mem_append] at hc
  exact hc.elim (ha c) (hb c)

theorem Plain.truncateName (h : Plain a) (max : Nat) : Plain (truncateName a max) :=
  fun c hc ↦ h c (mem_of_mem_truncateName hc)

/-- What a run of a job leaves at some time. -/
def recordOf (stamp ns cluster job storage : String) : Backup where
  metadata := { ObjectMeta.empty with
    name := some (Backup.recordStem cluster storage ++ "-" ++ stamp)
    ns? := some ns
    labels := some (.ofList [(clusterLabel, cluster), (ancestorLabel, job), (backupTypeLabel, "cron")]) }
  spec := ⟨cluster, storage⟩
  status := none

/-- The lines of the script that it hands over. -/
def innerLines (ns cluster job storage : String) : List String :=
  (Backup.scriptLines ns cluster job storage).tail.dropLast

theorem scriptLines_eq (ns cluster job storage : String) : Backup.scriptLines ns cluster job storage =
    "cat <<EOF | kubectl apply -f -" :: (innerLines ns cluster job storage ++ ["EOF"]) := rfl

/-- The keys of the entries of a script. -/
def keys : List String :=
  ["namespace", "name", clusterLabel, ancestorLabel, backupTypeLabel, "pxcCluster", "storageName"]

theorem all_isKeyChar_keys : ∀ key ∈ keys, key.toList.all isKeyChar = true := by
  decide +kernel

/-- The lines that are the same in all scripts, and what is read of them. -/
def fixedLines : List (String × Line) := [
  ("apiVersion: " ++ apiVersion, ⟨0, "apiVersion", some apiVersion⟩),
  ("kind: " ++ backupKind, ⟨0, "kind", some backupKind⟩),
  ("metadata:", ⟨0, "metadata", none⟩),
  ("  labels:", ⟨2, "labels", none⟩),
  ("spec:", ⟨0, "spec", none⟩)]

theorem read_fixedLines (stamp : String) : ∀ line ∈ fixedLines,
    IsInner line.1 ∧ (expand stamp.toList 0 line.1.toList).bind readLine = some line.2 := by
  have hlines : ∀ line ∈ fixedLines, IsInner line.1 ∧ line.1.toList.all (!isExpanded ·) = true ∧
      readLine line.1.toList = some line.2 := by
    decide +kernel
  intro line hline
  obtain ⟨hinner, hself, hread⟩ := hlines line hline
  exact ⟨hinner, read_constant hself hread⟩

theorem newline_not_mem_name (hcluster : '\n' ∉ cluster.toList) (hstorage : '\n' ∉ storage.toList) :
    '\n' ∉ (Backup.recordStem cluster storage ++ "-" ++ Backup.runTime).toList := by
  have htime : '\n' ∉ Backup.runTime.toList := by decide +kernel
  have hcut : '\n' ∉ (truncateName cluster 16).toList := mt mem_of_mem_truncateName hcluster
  have hcut' : '\n' ∉ (truncateName storage 16).toList := mt mem_of_mem_truncateName hstorage
  simp [Backup.recordStem, hcut, hcut', htime]

/-- If no name breaks its line, the lines that a script hands over are inner ones. -/
theorem isInner_innerLines (hns : '\n' ∉ ns.toList) (hcluster : '\n' ∉ cluster.toList) (hjob : '\n' ∉ job.toList)
    (hstorage : '\n' ∉ storage.toList) : ∀ line ∈ innerLines ns cluster job storage, IsInner line := by
  obtain ⟨hkeyNs, hkeyName, hkeyCluster, hkeyJob, hkeyType, hkeyOf, hkeyStorage, -⟩ := by
    simpa only [keys, List.forall_mem_cons] using all_isKeyChar_keys
  obtain ⟨hversion, hkind, hmetadata, hlabels, hspec, -⟩ := by
    simpa only [fixedLines, List.forall_mem_cons] using fun line hline ↦ (read_fixedLines "" line hline).1
  simp only [innerLines, Backup.scriptLines, List.tail_cons, List.dropLast, List.forall_mem_cons]
  exact ⟨hversion, hkind, hmetadata, isInner_entry hkeyNs hns 2,
    isInner_entry hkeyName (newline_not_mem_name hcluster hstorage) 2, hlabels, isInner_entry hkeyCluster hcluster 4,
    isInner_entry hkeyJob hjob 4, isInner_entry hkeyType (by decide) 4, hspec, isInner_entry hkeyOf hcluster 2,
    isInner_entry hkeyStorage hstorage 2, List.forall_mem_nil _⟩

/-- The script of a job leaves a record with the name that is made from the cluster, the storage and the time, and with
the name of the job as a label. -/
theorem recordOfScript?_script (hstamp : Plain stamp) (hns : Plain ns) (hcluster : Plain cluster) (hjob : Plain job)
    (hstorage : Plain storage) :
    recordOfScript? stamp (Backup.script ns cluster job storage) = some (recordOf stamp ns cluster job storage) := by
  have hcron : Plain "cron" := by simp [Plain, isSpecial, isExpanded]
  have hstem : Plain (Backup.recordStem cluster storage ++ "-") := by
    have hconstant : Plain "cron-" ∧ Plain "-" := by simp [Plain, isSpecial, isExpanded]
    have hcut := (hconstant.1.append (hcluster.truncateName 16)).append hconstant.2
    exact (hcut.append (hstorage.truncateName 16)).append hconstant.2
  have hname : Expands stamp.toList (Backup.recordStem cluster storage ++ "-" ++ Backup.runTime).toList
      (Backup.recordStem cluster storage ++ "-" ++ stamp).toList := by
    have happend := (hstem.expands stamp.toList).append expands_runTime
    rwa [← String.toList_append, ← String.toList_append] at happend
  obtain ⟨hkeyNs, hkeyName, hkeyCluster, hkeyJob, hkeyType, hkeyOf, hkeyStorage, -⟩ := by
    simpa only [keys, List.forall_mem_cons] using all_isKeyChar_keys
  obtain ⟨hversion, hkind, hmetadata, hlabels, hspec, -⟩ := by
    simpa only [fixedLines, List.forall_mem_cons] using read_fixedLines stamp
  have hinner := isInner_innerLines hns.newline_not_mem hcluster.newline_not_mem hjob.newline_not_mem
    hstorage.newline_not_mem
  rw [recordOfScript?, Backup.script, scriptLines_eq, hereDocument?_join hinner]
  -- Line by line, what is read of the manifest.
  simp only [innerLines, Backup.scriptLines, List.tail_cons, List.dropLast, List.map_cons, List.map_nil, List.mapM_cons,
    List.mapM_nil, hversion.2, hkind.2, hmetadata.2, hlabels.2, hspec.2, read_entry hkeyNs (hns.expands _) hns,
    read_entry hkeyName hname (hstem.append hstamp), read_entry hkeyCluster (hcluster.expands _) hcluster,
    read_entry hkeyJob (hjob.expands _) hjob, read_entry hkeyType (hcron.expands _) hcron,
    read_entry hkeyOf (hcluster.expands _) hcluster, read_entry hkeyStorage (hstorage.expands _) hstorage,
    Option.bind_eq_bind, Option.bind_some, Option.pure_def]
  simp [entries, record?, recordOf, label?, List.lookup]

end Script

section Run

variable {stamp : String} {c : Cluster} {plan plan' : BackupPlan}

/-- All names that go into the script of a schedule stand for themselves. -/
structure Legible (c : Cluster) (schedule : Schedule) : Prop where
  ns : Plain (c.metadata.ns?.getD "")
  cluster : Plain c.name
  storage : Plain schedule.storageName
  schedule : Plain schedule.name

theorem Legible.job {schedule : Schedule} (h : Legible c schedule) : Plain (jobName c.name schedule.name) := by
  have hconstant : Plain "-backup-" := by simp [Plain, isSpecial, isExpanded]
  exact ((h.cluster.append hconstant).append h.schedule).truncateName maxJobNameLength

/-- What a run of the job of a plan leaves at some time. -/
def recordOfPlan (stamp : String) (c : Cluster) (plan : BackupPlan) : Backup :=
  recordOf stamp (c.metadata.ns?.getD "") c.name (jobName c.name plan.schedule.name) plan.schedule.storageName

theorem recordOfRun?_cronJob (hstamp : Plain stamp) (h : Legible c plan.schedule) (account : Option String) :
    recordOfRun? stamp (Backup.cronJob c plan account) = some (recordOfPlan stamp c plan) := by
  rw [recordOfPlan, ← recordOfScript?_script hstamp h.ns h.cluster h.job h.storage]
  simp only [recordOfRun?, Backup.cronJob, CronJob.container?, Backup.jobContainer, Option.bind_eq_bind,
    Option.bind_some, List.head?_cons]

theorem ancestor_recordOfPlan (stamp : String) (c : Cluster) (plan : BackupPlan) :
    (recordOfPlan stamp c plan).metadata.labelsOrNone.get? ancestorLabel =
      some (jobName c.name plan.schedule.name) := by
  have hdistinct : ancestorLabel ≠ backupTypeLabel ∧ ancestorLabel ≠ clusterLabel := by decide +kernel
  simp [recordOfPlan, recordOf, ObjectMeta.labelsOrNone, Dict.ofList, hdistinct]

/-- The names of records tell the storages, as far as they have room for them. -/
theorem name_recordOfPlan_inj (stamp : String) (c : Cluster) :
    (recordOfPlan stamp c plan).name = (recordOfPlan stamp c plan').name ↔
      truncateName plan.schedule.storageName 16 = truncateName plan'.schedule.storageName 16 := by
  simp [recordOfPlan, recordOf, Backup.name, ObjectMeta.displayName, Backup.recordStem]

/-- Runs of two jobs at the same second leave records of one name exactly if the names of their storages are cut to the
same. Then the second record takes the place of the first one, and carries the label of the other job. -/
theorem records_meet_iff (account account' : Option String) (hstamp : Plain stamp) (h : Legible c plan.schedule)
    (h' : Legible c plan'.schedule) (hjobs : jobName c.name plan.schedule.name ≠ jobName c.name plan'.schedule.name) :
    ∃ record record' : Backup,
      recordOfRun? stamp (Backup.cronJob c plan account) = some record ∧
      recordOfRun? stamp (Backup.cronJob c plan' account') = some record' ∧
      record.metadata.labelsOrNone.get? ancestorLabel = some (jobName c.name plan.schedule.name) ∧
      record'.metadata.labelsOrNone.get? ancestorLabel = some (jobName c.name plan'.schedule.name) ∧
      (record.name = record'.name ↔
        truncateName plan.schedule.storageName 16 = truncateName plan'.schedule.storageName 16) ∧
      ∀ records : Objects Backup,
        ((records.put record).put record').find? (c.metadata.ns?.getD "") record.name = some record ↔
          truncateName plan.schedule.storageName 16 ≠ truncateName plan'.schedule.storageName 16 := by
  refine ⟨_, _, recordOfRun?_cronJob hstamp h account, recordOfRun?_cronJob hstamp h' account',
    ancestor_recordOfPlan stamp c plan, ancestor_recordOfPlan stamp c plan', name_recordOfPlan_inj stamp c, ?_⟩
  intro records
  have hfirst : Objects.isAt (c.metadata.ns?.getD "") (recordOfPlan stamp c plan).name (recordOfPlan stamp c plan) =
      true := Objects.isAt_iff.2 ⟨rfl, rfl⟩
  rw [ne_eq, ← name_recordOfPlan_inj stamp c, Objects.find?_put, Objects.find?_put, if_pos hfirst]
  by_cases hname : (recordOfPlan stamp c plan).name = (recordOfPlan stamp c plan').name
  · -- The two records have one name, but not one label.
    have hplace : Objects.isAt (c.metadata.ns?.getD "") (recordOfPlan stamp c plan).name (recordOfPlan stamp c plan') =
        true := Objects.isAt_iff.2 ⟨rfl, hname.symm⟩
    rw [if_pos hplace]
    refine iff_of_false (fun heq ↦ hjobs ?_) (not_not_intro hname)
    have hlabel := ancestor_recordOfPlan stamp c plan'
    rw [Option.some.inj heq, ancestor_recordOfPlan] at hlabel
    exact Option.some.inj hlabel
  · have hplace : ¬Objects.isAt (c.metadata.ns?.getD "") (recordOfPlan stamp c plan).name
        (recordOfPlan stamp c plan') = true := fun hat ↦ hname (Objects.isAt_iff.1 hat).2.symm
    rw [if_neg hplace]
    exact iff_of_true rfl hname

end Run

/-- A cluster with a daily backup and a weekly one that goes to some storage. -/
private def archiving (storage : String) : Cluster where
  metadata := { ObjectMeta.empty with name := some "db", ns? := some "prod" }
  spec := ⟨⟨1, "image", true, ⟨none, "1Gi"⟩⟩, none, none, false, some ⟨"image",
    .ofList [("disk", .filesystem "claim"), ("tape", .filesystem "drive")],
    [⟨"daily", "0 2 * * *", 7, "disk"⟩, ⟨"weekly", "0 2 * * 0", 4, storage⟩]⟩⟩
  status := none

private def dailyPlan : BackupPlan := ⟨⟨"daily", "0 2 * * *", 7, "disk"⟩, .filesystem "claim", "image"⟩

private def weeklyPlan (storage claim : String) : BackupPlan :=
  ⟨⟨"weekly", "0 2 * * 0", 4, storage⟩, .filesystem claim, "image"⟩

private theorem plain_night : Plain "20240505020000" := by simp [Plain, isSpecial, isExpanded]

private theorem legible_daily (storage : String) : Legible (archiving storage) dailyPlan.schedule := by
  constructor <;> simp [archiving, dailyPlan, Cluster.name, ObjectMeta.displayName, Plain, isSpecial, isExpanded]

private theorem legible_weekly {storage claim : String} (h : Plain storage) :
    Legible (archiving storage) (weeklyPlan storage claim).schedule := by
  refine ⟨(legible_daily storage).ns, (legible_daily storage).cluster, h, ?_⟩
  simp [weeklyPlan, Plain, isSpecial, isExpanded]

/-- On a Sunday at two, the daily and the weekly backup of a cluster leave two records if they go to two storages. -/
theorem records_meet_iff_tape : ∃ record record' : Backup,
    recordOfRun? "20240505020000" (Backup.cronJob (archiving "tape") dailyPlan none) = some record ∧
    recordOfRun? "20240505020000" (Backup.cronJob (archiving "tape") (weeklyPlan "tape" "drive") none) = some record' ∧
    record.name ≠ record'.name ∧ ((Objects.put record []).put record').find? "prod" record.name = some record := by
  have hweekly : Legible (archiving "tape") (weeklyPlan "tape" "drive").schedule :=
    legible_weekly (by simp [Plain, isSpecial, isExpanded])
  obtain ⟨record, record', hrun, hrun', -, -, hname, hkept⟩ :=
    records_meet_iff none none plain_night (legible_daily "tape") hweekly (by decide +kernel)
  have hcut : truncateName dailyPlan.schedule.storageName 16 ≠
      truncateName (weeklyPlan "tape" "drive").schedule.storageName 16 := by decide +kernel
  exact ⟨record, record', hrun, hrun', mt hname.1 hcut, (hkept []).2 hcut⟩

/-- If both go to one storage, only the weekly one is left a record, and the daily one none that retention counts. -/
theorem records_meet_disk :
    (Schedules.planOf (archiving "disk") dailyPlan.schedule = some dailyPlan ∧
      Schedules.planOf (archiving "disk") (weeklyPlan "disk" "claim").schedule = some (weeklyPlan "disk" "claim")) ∧
    jobName "db" "daily" ≠ jobName "db" "weekly" ∧ ∃ record record' : Backup,
      recordOfRun? "20240505020000" (Backup.cronJob (archiving "disk") dailyPlan none) = some record ∧
      recordOfRun? "20240505020000" (Backup.cronJob (archiving "disk") (weeklyPlan "disk" "claim") none) =
        some record' ∧
      record.name = "cron-db-disk-20240505020000" ∧ record'.name = "cron-db-disk-20240505020000" ∧
      (Objects.put record []).put record' = [record'] ∧
      record.metadata.labelsOrNone.get? ancestorLabel = some (jobName "db" "daily") ∧
      record'.metadata.labelsOrNone.get? ancestorLabel = some (jobName "db" "weekly") := by
  have hweekly : Legible (archiving "disk") (weeklyPlan "disk" "claim").schedule :=
    legible_weekly (by simp [Plain, isSpecial, isExpanded])
  refine ⟨⟨by decide +kernel, by decide +kernel⟩, by decide +kernel, _, _,
    recordOfRun?_cronJob plain_night (legible_daily "disk") none, recordOfRun?_cronJob plain_night hweekly none,
    by decide +kernel, by decide +kernel, by decide +kernel, ?_, ?_⟩
  · exact ancestor_recordOfPlan ..
  · exact ancestor_recordOfPlan ..

end Manifest

end GaleraOperator
