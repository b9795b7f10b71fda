import GaleraOperator.Proofs.Backup.HereDocument

/-!
# Names in scripts

The names of a cluster go into the script of a job as they are, between the double quotes of a manifest that stands in a
here-document. So a name is not always data: a script treats its names as such exactly if none breaks its line or begins
a command, and if the name of the storage holds neither quotes nor anything else that the shell changes.
-/

namespace GaleraOperator

open Kube

namespace HereDocument

open Manifest

/-- What stands between two double quotes, of which the second one ends the line. -/
def quoted? (line : List Char) : Option (List Char) :=
  match line.dropWhile (· ≠ '"') with
  | [] => none
  | _ :: rest => if rest.dropWhile (· ≠ '"') = ['"'] then some (rest.takeWhile (· ≠ '"')) else none

theorem quoted?_eq (hfront : '"' ∉ xs) (value : List Char) :
    quoted? (xs ++ '"' :: (value ++ ['"'])) = if '"' ∈ value then none else some value := by
  have hother {cs : List Char} (h : '"' ∉ cs) : ∀ c ∈ cs, decide (c ≠ '"') = true :=
    fun c hc ↦ decide_eq_true (ne_of_mem_of_not_mem hc h)
  have hstart : (xs ++ '"' :: (value ++ ['"'])).dropWhile (· ≠ '"') = '"' :: (value ++ ['"']) := by
    rw [List.dropWhile_append_of_pos (hother hfront)]
    rfl
  simp only [quoted?, hstart]
  by_cases hvalue : '"' ∈ value
  · obtain ⟨before, after, rfl, hbefore⟩ := List.eq_append_cons_of_mem hvalue
    rw [List.append_assoc, List.dropWhile_append_of_pos (hother hbefore), if_pos hvalue]
    exact if_neg (by simp)
  · rw [List.dropWhile_append_of_pos (hother hvalue), List.takeWhile_append_of_pos (hother hvalue), if_neg hvalue]
    simp

/-- A script treats names as data: it has as many lines as with any others; one line of its manifest is about the
storage, and after the shell that has the name of it between its quotes; and no command begins in it but the one that
gives the time. -/
structure TreatsAsData (script storage : String) : Prop where
  lines : script.toList.count '\n' = 14
  entry : ∃ line, (hereDocument? script).map (·.filter "  storageName: ".toList.isPrefixOf) = some [line] ∧
    (literal? line).bind quoted? = some storage.toList
  command : ∃ rest, commands script.toList = [Backup.runTime.toList ++ rest]

/-- Names that do no harm in a script: none breaks its line or begins a command, and the shell and the quotes leave that
of the storage as it is. -/
structure Harmless (ns cluster job storage : String) : Prop where
  unbroken : ∀ name ∈ [ns, cluster, job, storage], '\n' ∉ name.toList
  commandless : ∀ name ∈ [ns, cluster, job], commands name.toList = []
  inert : Inert storage.toList
  unquoted : '"' ∉ storage.toList

variable {ns cluster job storage key value : String} {indent : Nat}

/-- What stands in a line before its value. -/
def opening (indent : Nat) (key : String) : List Char := List.replicate indent ' ' ++ key.toList ++ [':', ' ', '"']

theorem toList_entry (indent : Nat) (key value : String) :
    (Backup.manifestEntry indent key value).toList = opening indent key ++ (value.toList ++ ['"']) := by
  simp [toList_manifestEntry, opening]

theorem not_isExpanded_opening (hkey : key.toList.all isKeyChar) (indent : Nat) :
    ∀ c ∈ opening indent key, isExpanded c = false := by
  have hblank : ∀ c ∈ List.replicate indent ' ', isExpanded c = false :=
    fun c hc ↦ by rw [List.eq_of_mem_replicate hc]; rfl
  simp only [opening, List.forall_mem_append, List.forall_mem_cons]
  exact ⟨⟨hblank, not_isExpanded_key hkey⟩, rfl, rfl, rfl, List.forall_mem_nil _⟩

/-- The shell makes of a line what it makes of its value. -/
theorem literal?_entry (hkey : key.toList.all isKeyChar) :
    literal? (Backup.manifestEntry indent key value).toList =
      (literal? value.toList).map fun text ↦ opening indent key ++ (text ++ ['"']) := by
  have hself := not_isExpanded_opening hkey indent
  have happart : Apart (opening indent key) (value.toList ++ ['"']) :=
    apart_of_not_isExpanded fun c hc ↦ hself c (List.mem_of_getLast? hc)
  have hquote : literal? ['"'] = some ['"'] := rfl
  rw [toList_entry, literal?_append happart, literal?_eq_self_iff.2 (inert_of_not_isExpanded hself), Option.bind_some,
    literal?_append apart_quote, hquote]
  cases literal? value.toList <;> rfl

/-- In a line there begin the commands that begin in its value. -/
theorem commands_entry_eq_nil (hkey : key.toList.all isKeyChar) :
    commands ((Backup.manifestEntry indent key value).toList ++ ['\n']) = [] ↔ commands value.toList = [] := by
  have hself := not_isExpanded_opening hkey indent
  have happart : Apart (opening indent key) (value.toList ++ ['"', '\n']) :=
    apart_of_not_isExpanded fun c hc ↦ hself c (List.mem_of_getLast? hc)
  have hopening : commands (opening indent key) = [] :=
    commands_eq_nil_of_literal? (literal?_eq_self_iff.2 (inert_of_not_isExpanded hself))
  have hend : commands ['"', '\n'] = [] := rfl
  rw [toList_entry, List.append_assoc, List.append_assoc, List.singleton_append, commands_append_eq_nil happart,
    commands_append_eq_nil apart_quote]
  simp only [hopening, hend, true_and, and_true]

theorem entry_iff : (literal? (Backup.manifestEntry 2 "storageName" storage).toList).bind quoted? = some storage.toList ↔
    Inert storage.toList ∧ '"' ∉ storage.toList := by
  have hopening (text : List Char) : opening 2 "storageName" ++ (text ++ ['"']) =
      "  storageName: ".toList ++ '"' :: (text ++ ['"']) := rfl
  have hquoted (text : List Char) : quoted? (opening 2 "storageName" ++ (text ++ ['"'])) =
      if '"' ∈ text then none else some text := by
    rw [hopening, quoted?_eq (by decide)]
  rw [literal?_entry (by decide +kernel), Option.bind_map, ← literal?_eq_self_iff]
  cases literal? storage.toList with
  | none => simp
  | some text =>
    simp only [Option.bind_some, Function.comp_apply, hquoted, Option.some.injEq]
    split
    · next hquote => exact iff_of_false nofun fun h ↦ h.2 (h.1 ▸ hquote)
    · next hquote => exact ⟨fun h ↦ ⟨Option.some.inj h, Option.some.inj h ▸ hquote⟩, fun h ↦ congrArg some h.1⟩

/-- The line about the storage is the only one that begins as it does. -/
theorem filter_innerLines (ns cluster job storage : String) :
    ((innerLines ns cluster job storage).map String.toList).filter "  storageName: ".toList.isPrefixOf =
      [(Backup.manifestEntry 2 "storageName" storage).toList] := by
  simp [innerLines, Backup.scriptLines, toList_manifestEntry, List.isPrefixOf, apiVersion, backupKind]

theorem toList_script (ns cluster job storage : String) : (Backup.script ns cluster job storage).toList =
    (Backup.scriptLines ns cluster job storage).flatMap fun line ↦ line.toList ++ ['\n'] := by
  simp [Backup.script, String.toList_join, List.flatMap_map]

/-- There are as many line ends as lines exactly if no line holds one. -/
theorem count_lines_eq_iff (lines : List String) :
    (lines.flatMap fun line ↦ line.toList ++ ['\n']).count '\n' = lines.length ↔ ∀ line ∈ lines, '\n' ∉ line.toList := by
  have hcount : (lines.flatMap fun line ↦ line.toList ++ ['\n']).count '\n' =
      lines.length + (lines.map (·.toList.count '\n')).sum := by
    induction lines with
    | nil => rfl
    | cons line lines ih =>
      simp only [List.flatMap_cons, List.count_append, List.count_singleton_self, ih, List.length_cons, List.map_cons,
        List.sum_cons]
      omega
  rw [hcount, Nat.add_eq_left, List.sum_eq_zero_iff]
  simp only [List.forall_mem_map, List.count_eq_zero]

theorem newline_mem_entry (hkey : key.toList.all isKeyChar) :
    '\n' ∈ (Backup.manifestEntry indent key value).toList ↔ '\n' ∈ value.toList := by
  simp [toList_entry, opening, newline_not_mem_key hkey]

theorem isKeyChar_of_mem_keys (h : key ∈ keys) : key.toList.all isKeyChar := all_isKeyChar_keys key h

/-- No line of a script is broken exactly if no name breaks one. -/
theorem unbroken_scriptLines_iff : (∀ line ∈ Backup.scriptLines ns cluster job storage, '\n' ∉ line.toList) ↔
    ∀ name ∈ [ns, cluster, job, storage], '\n' ∉ name.toList := by
  constructor
  · intro h
    have hentry (indent : Nat) (key name : String) (hkey : key ∈ keys)
        (hline : Backup.manifestEntry indent key name ∈ Backup.scriptLines ns cluster job storage) :
        '\n' ∉ name.toList :=
      fun hmem ↦ h _ hline ((newline_mem_entry (isKeyChar_of_mem_keys hkey)).2 hmem)
    simp only [List.forall_mem_cons]
    refine ⟨hentry 2 "namespace" ns ?_ ?_, hentry 2 "pxcCluster" cluster ?_ ?_, hentry 4 ancestorLabel job ?_ ?_,
      hentry 2 "storageName" storage ?_ ?_, List.forall_mem_nil _⟩ <;> simp [keys, Backup.scriptLines]
  · intro h
    simp only [List.forall_mem_cons] at h
    obtain ⟨hns, hcluster, hjob, hstorage, -⟩ := h
    rw [scriptLines_eq]
    simp only [List.forall_mem_cons, List.forall_mem_append]
    exact ⟨by decide, fun line hline ↦ (isInner_innerLines hns hcluster hjob hstorage line hline).1, by decide,
      List.forall_mem_nil _⟩

/-- The lines of a script before the one with the time. -/
def linesBefore (ns : String) : List String :=
  ["cat <<EOF | kubectl apply -f -", "apiVersion: " ++ apiVersion, "kind: " ++ backupKind, "metadata:",
    Backup.manifestEntry 2 "namespace" ns]

/-- The lines of a script after the one with the time. -/
def linesAfter (cluster job storage : String) : List String :=
  ["  labels:", Backup.manifestEntry 4 clusterLabel cluster, Backup.manifestEntry 4 ancestorLabel job,
    Backup.manifestEntry 4 backupTypeLabel "cron", "spec:", Backup.manifestEntry 2 "pxcCluster" cluster,
    Backup.manifestEntry 2 "storageName" storage, "EOF"]

/-- The script up to the command that gives the time. -/
def front (ns cluster storage : String) : List Char :=
  ((linesBefore ns).flatMap fun line ↦ line.toList ++ ['\n']) ++
    (opening 2 "name" ++ (Backup.recordStem cluster storage ++ "-").toList)

/-- The script after the command that gives the time. -/
def back (cluster job storage : String) : List Char :=
  ['"', '\n'] ++ (linesAfter cluster job storage).flatMap fun line ↦ line.toList ++ ['\n']

theorem toList_script_eq (ns cluster job storage : String) : (Backup.script ns cluster job storage).toList =
    front ns cluster storage ++ (Backup.runTime.toList ++ back cluster job storage) := by
  have hlines : Backup.scriptLines ns cluster job storage = linesBefore ns ++
      (Backup.manifestEntry 2 "name" (Backup.recordStem cluster storage ++ "-" ++ Backup.runTime) ::
        linesAfter cluster job storage) := rfl
  rw [toList_script, hlines, List.flatMap_append, List.flatMap_cons, toList_entry, String.toList_append]
  simp only [front, back, List.append_assoc, List.cons_append, List.nil_append]

/-- Lines are read each by itself. -/
theorem commands_lines_eq_nil (lines : List String) (tail : List Char) :
    commands ((lines.flatMap fun line ↦ line.toList ++ ['\n']) ++ tail) = [] ↔
      (∀ line ∈ lines, commands (line.toList ++ ['\n']) = []) ∧ commands tail = [] := by
  induction lines with
  | nil => simp
  | cons line lines ih =>
    have happart : Apart (line.toList ++ ['\n']) ((lines.flatMap fun line ↦ line.toList ++ ['\n']) ++ tail) :=
      apart_of_not_isExpanded fun c hc ↦ by
        obtain rfl : '\n' = c := by simpa using hc
        rfl
    rw [List.flatMap_cons, List.append_assoc, commands_append_eq_nil happart, ih, List.forall_mem_cons, and_assoc]

/-- A cut name ends with a letter or a digit, so it is apart from whatever follows it. -/
theorem apart_truncateName (name : String) (max : Nat) (ys : List Char) : Apart (truncateName name max).toList ys := by
  refine apart_of_not_isExpanded fun c hc ↦ ?_
  have halnum := isAlphanum_of_getLast?_truncateName hc
  rw [Bool.eq_false_iff]
  intro hexpanded
  simp only [isExpanded, Bool.or_eq_true, decide_eq_true_eq] at hexpanded
  rcases hexpanded with (heq | heq) | heq <;> rw [heq] at halnum <;> cases halnum

/-- Cutting a name begins no command. -/
theorem commands_truncateName {name : String} (h : commands name.toList = []) (max : Nat) :
    commands (truncateName name max).toList = [] := by
  obtain ⟨rest, hrest⟩ := truncateName_isPrefix name max
  rw [← hrest, commands_append_eq_nil (apart_truncateName name max rest)] at h
  exact h.1

theorem commands_front_eq_nil_iff : commands (front ns cluster storage) = [] ↔ commands ns.toList = [] ∧
    commands (truncateName cluster 16).toList = [] ∧ commands (truncateName storage 16).toList = [] := by
  have hfixed : ∀ line ∈ ["cat <<EOF | kubectl apply -f -", "apiVersion: " ++ apiVersion, "kind: " ++ backupKind,
      "metadata:"], commands (line.toList ++ ['\n']) = [] := by decide +kernel
  have hname : '"' ∈ (opening 2 "name").getLast? := rfl
  have hnames : (Backup.recordStem cluster storage ++ "-").toList = ['c', 'r', 'o', 'n', '-'] ++
      ((truncateName cluster 16).toList ++ (['-'] ++ ((truncateName storage 16).toList ++ ['-']))) := by
    simp [Backup.recordStem]
  have hparts : commands (opening 2 "name") = [] ∧ commands ['c', 'r', 'o', 'n', '-'] = [] ∧ commands ['-'] = [] := by
    decide +kernel
  rw [front, commands_lines_eq_nil, hnames, commands_append_eq_nil (apart_of_getLast? hname rfl),
    commands_append_eq_nil (apart_of_getLast? (c := '-') rfl rfl), commands_append_eq_nil (apart_truncateName _ _ _),
    commands_append_eq_nil (apart_of_getLast? (c := '-') rfl rfl), commands_append_eq_nil (apart_truncateName _ _ _)]
  simp only [linesBefore, List.forall_mem_cons] at hfixed ⊢
  rw [commands_entry_eq_nil (isKeyChar_of_mem_keys (by decide))]
  simp only [hfixed, hparts, true_and, and_true, List.not_mem_nil, false_imp_iff, implies_true]

theorem commands_back_eq_nil_iff : commands (back cluster job storage) = [] ↔
    commands cluster.toList = [] ∧ commands job.toList = [] ∧ commands storage.toList = [] := by
  have hfixed : ∀ line ∈ ["  labels:", Backup.manifestEntry 4 backupTypeLabel "cron", "spec:", "EOF"],
      commands (line.toList ++ ['\n']) = [] := by decide +kernel
  have hstart : commands ['"', '\n'] = [] := rfl
  have hlines := commands_lines_eq_nil (linesAfter cluster job storage) []
  rw [List.append_nil, and_iff_left (show commands [] = [] from rfl)] at hlines
  rw [back, commands_append_eq_nil (apart_of_getLast? (c := '\n') rfl rfl), hlines]
  have hentry (indent : Nat) (key value : String) (hkey : key ∈ keys) :
      commands ((Backup.manifestEntry indent key value).toList ++ ['\n']) = [] ↔ commands value.toList = [] :=
    commands_entry_eq_nil (isKeyChar_of_mem_keys hkey)
  simp only [linesAfter, List.forall_mem_cons] at hfixed ⊢
  rw [hentry 4 clusterLabel cluster (by decide), hentry 4 ancestorLabel job (by decide),
    hentry 2 "pxcCluster" cluster (by decide), hentry 2 "storageName" storage (by decide)]
  obtain ⟨hlabels, htype, hspec, hend, -⟩ := hfixed
  simp only [hstart, hlabels, htype, hspec, hend, true_and, List.not_mem_nil, false_imp_iff, implies_true, and_true]
  exact ⟨fun h ↦ ⟨h.1, h.2.1, h.2.2.2⟩, fun h ↦ ⟨h.1, h.2.1, h.1, h.2.2⟩⟩

/-- The commands of a script are those in what stands before the time, the one that gives the time, and those after. -/
theorem commands_script (ns cluster job storage : String) :
    commands (Backup.script ns cluster job storage).toList =
      (commands (front ns cluster storage)).map (· ++ (Backup.runTime.toList ++ back cluster job storage)) ++
        (Backup.runTime.toList ++ back cluster job storage) :: commands (back cluster job storage) := by
  have htime : commands Backup.runTime.toList = [Backup.runTime.toList] := by decide +kernel
  have hfront : '-' ∈ (front ns cluster storage).getLast? := by simp [front]
  have hend : ')' ∈ Backup.runTime.toList.getLast? := by decide +kernel
  rw [toList_script_eq, commands_append (apart_of_getLast? hfront rfl), commands_append (apart_of_getLast? hend rfl),
    htime]
  rfl

/-- A command that begins in the name of the storage begins in the script. -/
theorem mem_commands_script {command : List Char} (h : command ∈ commands storage.toList) :
    ∃ rest, command ++ rest ∈ commands (Backup.script ns cluster job storage).toList := by
  obtain ⟨before, after, hback⟩ : ∃ before after, back cluster job storage =
      (before ++ opening 2 "storageName") ++ (storage.toList ++ '"' :: after) := by
    obtain ⟨lines, hlines⟩ : ∃ lines, linesAfter cluster job storage =
        lines ++ [Backup.manifestEntry 2 "storageName" storage, "EOF"] :=
      ⟨(linesAfter cluster job storage).take 6, rfl⟩
    refine ⟨['"', '\n'] ++ lines.flatMap fun line ↦ line.toList ++ ['\n'], ['\n', 'E', 'O', 'F', '\n'], ?_⟩
    rw [back, hlines, List.flatMap_append, List.flatMap_cons, toList_entry]
    simp [opening]
  have hopening : '"' ∈ (before ++ opening 2 "storageName").getLast? := by simp [opening]
  have hmem : ∃ rest, command ++ rest ∈ commands (back cluster job storage) := by
    rw [hback, commands_append (apart_of_getLast? hopening rfl), commands_append apart_quote]
    exact ⟨_, List.mem_append_right _ (List.mem_append_left _ (List.mem_map_of_mem h))⟩
  obtain ⟨rest, hrest⟩ := hmem
  rw [commands_script]
  exact ⟨rest, List.mem_append_right _ (List.mem_cons_of_mem _ hrest)⟩

/-- A script treats its names as data exactly if they do no harm in it. -/
theorem treatsAsData_script_iff :
    TreatsAsData (Backup.script ns cluster job storage) storage ↔ Harmless ns cluster job storage := by
  have hlines : (Backup.script ns cluster job storage).toList.count '\n' = 14 ↔
      ∀ name ∈ [ns, cluster, job, storage], '\n' ∉ name.toList := by
    rw [← unbroken_scriptLines_iff, ← count_lines_eq_iff, ← toList_script]
    rfl
  have hcommands := commands_script ns cluster job storage
  have hfiltered (hunbroken : ∀ name ∈ [ns, cluster, job, storage], '\n' ∉ name.toList) :
      (hereDocument? (Backup.script ns cluster job storage)).map (·.filter "  storageName: ".toList.isPrefixOf) =
        some [(Backup.manifestEntry 2 "storageName" storage).toList] := by
    simp only [List.forall_mem_cons] at hunbroken
    obtain ⟨hns, hcluster, hjob, hstorage, -⟩ := hunbroken
    rw [Backup.script, scriptLines_eq, hereDocument?_join (isInner_innerLines hns hcluster hjob hstorage),
      Option.map_some, filter_innerLines]
  constructor
  · intro h
    have hunbroken := hlines.1 h.lines
    obtain ⟨line, hline, hvalue⟩ := h.entry
    obtain rfl : (Backup.manifestEntry 2 "storageName" storage).toList = line := by
      simpa using (hfiltered hunbroken).symm.trans hline
    obtain ⟨rest, hrest⟩ := h.command
    -- The one command that there is gives the time, so none begins before or after it.
    have hone := congrArg List.length (hcommands.symm.trans hrest)
    simp only [List.length_append, List.length_map, List.length_cons, List.length_nil] at hone
    have hfront : commands (front ns cluster storage) = [] := List.length_eq_zero_iff.1 (by omega)
    have hback : commands (back cluster job storage) = [] := List.length_eq_zero_iff.1 (by omega)
    obtain ⟨hns, -, -⟩ := commands_front_eq_nil_iff.1 hfront
    obtain ⟨hcluster, hjob, -⟩ := commands_back_eq_nil_iff.1 hback
    obtain ⟨hinert, hunquoted⟩ := entry_iff.1 hvalue
    refine ⟨hunbroken, ?_, hinert, hunquoted⟩
    simp only [List.forall_mem_cons]
    exact ⟨hns, hcluster, hjob, List.forall_mem_nil _⟩
  · intro h
    have hcommandless := h.commandless
    simp only [List.forall_mem_cons] at hcommandless
    obtain ⟨hns, hcluster, hjob, -⟩ := hcommandless
    have hstorage := commands_eq_nil_of_literal? (literal?_eq_self_iff.2 h.inert)
    have hfront := commands_front_eq_nil_iff.2
      ⟨hns, commands_truncateName hcluster 16, commands_truncateName hstorage 16⟩
    refine ⟨hlines.2 h.unbroken, ⟨_, hfiltered h.unbroken, entry_iff.2 ⟨h.inert, h.unquoted⟩⟩,
      back cluster job storage, ?_⟩
    rw [hcommands, hfront, commands_back_eq_nil_iff.2 ⟨hcluster, hjob, hstorage⟩]
    rfl

/-- The script that a run of a job hands to the shell. -/
def scriptOf? (job : CronJob) : Option String := do
  let container ← job.container?
  match container.command, container.args with
  | some ["sh", "-c"], some [script] => some script
  | _, _ => none

theorem scriptOf?_cronJob (c : Cluster) (plan : BackupPlan) (account : Option String) :
    scriptOf? (Backup.cronJob c plan account) = some (Backup.script (c.metadata.ns?.getD "") c.name
      (jobName c.name plan.schedule.name) plan.schedule.storageName) := by
  simp only [scriptOf?, Backup.cronJob, CronJob.container?, Backup.jobContainer, Option.bind_eq_bind,
    Option.bind_some, List.head?_cons]

/-- Names do no harm if no character of them is special in a manifest. -/
theorem harmless_of_legible {c : Cluster} {schedule : Schedule} (h : Legible c schedule) :
    Harmless (c.metadata.ns?.getD "") c.name (jobName c.name schedule.name) schedule.storageName := by
  have hinert {name : String} (hname : Plain name) : Inert name.toList := by
    refine inert_of_not_isExpanded fun c hc ↦ ?_
    have hspecial := hname c hc
    simp only [isSpecial, Bool.or_eq_false_iff] at hspecial
    exact hspecial.1.1
  have hcommands {name : String} (hname : Plain name) : commands name.toList = [] :=
    commands_eq_nil_of_literal? (literal?_eq_self_iff.2 (hinert hname))
  refine ⟨?_, ?_, hinert h.storage, fun hmem ↦ absurd (h.storage _ hmem) (by decide)⟩ <;>
    simp only [List.forall_mem_cons]
  · exact ⟨h.ns.newline_not_mem, h.cluster.newline_not_mem, h.job.newline_not_mem, h.storage.newline_not_mem,
      List.forall_mem_nil _⟩
  · exact ⟨hcommands h.ns, hcommands h.cluster, hcommands h.job, List.forall_mem_nil _⟩

/-- The script of a job treats the names of a cluster as data exactly if they do no harm in it: none of them breaks its
line, none begins a command, and the name of the storage holds no quote and nothing that the shell takes for anything
but itself. They are written into the script as they are. -/
theorem names_are_data_iff (c : Cluster) (plan : BackupPlan) (account : Option String) :
    ∃ script, scriptOf? (Backup.cronJob c plan account) = some script ∧
      (TreatsAsData script plan.schedule.storageName ↔ Harmless (c.metadata.ns?.getD "") c.name
        (jobName c.name plan.schedule.name) plan.schedule.storageName) :=
  ⟨_, scriptOf?_cronJob c plan account, treatsAsData_script_iff⟩

/-- A cluster with a daily backup to a storage of some name. -/
private def storing (storage : String) : Cluster where
  metadata := { ObjectMeta.empty with name := some "db", ns? := some "prod" }
  spec := ⟨⟨1, "image", true, ⟨none, "1Gi"⟩⟩, none, none, false, some ⟨"image",
    .ofList [(storage, .filesystem "claim")], [⟨"daily", "0 2 * * *", 7, storage⟩]⟩⟩
  status := none

private def storingPlan (storage : String) : BackupPlan :=
  ⟨⟨"daily", "0 2 * * *", 7, storage⟩, .filesystem "claim", "image"⟩

/-- A storage may be called by a command, which the script of the job runs. -/
theorem storage_name_runs :
    Schedules.planOf (storing "$(reboot)s") (storingPlan "$(reboot)s").schedule = some (storingPlan "$(reboot)s") ∧
    ∃ script, scriptOf? (Backup.cronJob (storing "$(reboot)s") (storingPlan "$(reboot)s") none) = some script ∧
      (∃ rest, "$(reboot)s".toList ++ rest ∈ commands script.toList) ∧ ¬TreatsAsData script "$(reboot)s" := by
  have hcommand : "$(reboot)s".toList ∈ commands "$(reboot)s".toList := by decide +kernel
  refine ⟨by decide +kernel, _, scriptOf?_cronJob _ _ none, mem_commands_script hcommand, fun h ↦ ?_⟩
  exact absurd (treatsAsData_script_iff.1 h).inert.2 (by decide)

end HereDocument

end GaleraOperator
