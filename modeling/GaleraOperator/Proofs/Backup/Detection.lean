import GaleraOperator.Proofs.Backup.JobSteps
import GaleraOperator.Proofs.Naming

/-!
# What the comparison of jobs sees

A job is made from a plan and from the account that its runs use. The comparison with what should be there looks at the
labels, the time, the image, the script and the environment, and everything of the plan that the job is made from shows
there. The account does not: jobs that need no update are the same up to the account.
-/

namespace GaleraOperator

open Kube

/-- Where a mark overlaps with no part of itself, it tells apart what comes before it from what comes after it, if it is
longer than what comes before it. -/
theorem eq_of_append_mark {front front' mark back back' : List Char} {n : ℕ}
    (hmark : ∀ k, 0 < k → k ≤ n → ¬mark.drop k <+: mark) (hn : n ≤ mark.length) (hfront : front.length ≤ n)
    (hfront' : front'.length ≤ n) (h : front ++ (mark ++ back) = front' ++ (mark ++ back')) :
    front = front' ∧ back = back' := by
  -- The mark is not met again where it was moved by the rest of a longer front.
  have hunmoved {rest back back' : List Char} (hrest : rest.length ≤ n) (h : mark ++ back = rest ++ (mark ++ back')) :
      rest = [] := by
    by_contra hne
    refine hmark rest.length (List.length_pos_iff.2 hne) hrest ?_
    have hdropped := congrArg (List.drop rest.length) h
    rw [List.drop_append_of_le_length (hrest.trans hn), List.drop_left] at hdropped
    have hrest' : mark.drop rest.length <+: mark ++ back' := by
      rw [← hdropped]
      exact List.prefix_append _ _
    apply List.prefix_of_prefix_length_le hrest' (List.prefix_append _ _)
    simp
  rcases List.append_eq_append_iff.1 h with ⟨rest, hrest, hback⟩ | ⟨rest, hrest, hback⟩
  · obtain rfl := hunmoved (by simp [hrest] at hfront'; omega) hback
    exact ⟨by simpa using hrest.symm, List.append_cancel_left hback⟩
  · obtain rfl := hunmoved (by simp [hrest] at hfront; omega) hback
    exact ⟨by simpa using hrest, (List.append_cancel_left hback).symm⟩

theorem Storage.Kind.text_inj {k k' : Storage.Kind} : k.text = k'.text ↔ k = k' := by
  cases k <;> cases k' <;> decide

namespace Backup

variable {c : Cluster} {plan plan' : BackupPlan} {account account' : Option String}
  {ns cluster job job' storage storage' : String}

/-- Two plans make the same job, but for the account. Of a schedule nothing else counts than the name of its job, its
time and its storage, and of a storage nothing else than its name and its kind. -/
structure Alike (c : Cluster) (plan plan' : BackupPlan) : Prop where
  job : jobName c.name plan.schedule.name = jobName c.name plan'.schedule.name
  time : plan.schedule.schedule = plan'.schedule.schedule
  storage : plan.schedule.storageName = plan'.schedule.storageName
  image : plan.image = plan'.image
  kind : plan.storage.kind = plan'.storage.kind

/-- The labels of a job tell its name. -/
theorem jobLabels_inj : jobLabels cluster job = jobLabels cluster job' ↔ job = job' := by
  refine ⟨fun h ↦ ?_, congrArg _⟩
  have hlabel (job : String) : (jobLabels cluster job).get? ancestorLabel = some job := by
    have hdistinct : ancestorLabel ≠ backupTypeLabel ∧ ancestorLabel ≠ managedByLabel := by decide +kernel
    simp [jobLabels, scheduleLabels, Dict.ofList, hdistinct]
  rw [← Option.some_inj, ← hlabel job, h, hlabel]

/-- What stands before the first place of the storage in the script. -/
def scriptFront (ns cluster : String) : String :=
  String.join ["cat <<EOF | kubectl apply -f -\n", "apiVersion: ", apiVersion, "\n", "kind: ", backupKind, "\n",
    "metadata:\n", manifestEntry 2 "namespace" ns ++ "\n",
    "  name: \"" ++ ("cron-" ++ (truncateName cluster 16 ++ "-"))]

/-- What stands between the places of the storage in the script, whatever the script is made for. -/
def scriptMark : String := "-" ++ runTime ++ "\"\n  labels:\n"

/-- What stands after that, up to the second place. -/
def scriptMiddle (cluster job : String) : String :=
  String.join [manifestEntry 4 clusterLabel cluster ++ "\n", manifestEntry 4 ancestorLabel job ++ "\n",
    manifestEntry 4 backupTypeLabel "cron" ++ "\n", "spec:\n", manifestEntry 2 "pxcCluster" cluster ++ "\n"]

/-- The script has the storage in two places. -/
theorem script_eq (ns cluster job storage : String) : script ns cluster job storage =
    scriptFront ns cluster ++ (truncateName storage 16 ++
      (scriptMark ++ (scriptMiddle cluster job ++ ("  storageName: \"" ++ (storage ++ "\"\nEOF\n"))))) := by
  simp [script, scriptLines, scriptFront, scriptMark, scriptMiddle, String.join, manifestEntry, recordStem,
    String.append_assoc, apiVersion, backupKind, runTime, clusterLabel, ancestorLabel, backupTypeLabel]

/-- Nothing of the mark stands at another place of it. -/
theorem scriptMark_unbordered : ∀ k, 0 < k → k ≤ 16 → ¬scriptMark.toList.drop k <+: scriptMark.toList := by
  intro k hpos hle
  interval_cases k <;> decide +kernel

/-- The script tells its storage. -/
theorem script_inj : script ns cluster job storage = script ns cluster job storage' ↔ storage = storage' := by
  refine ⟨fun h ↦ ?_, congrArg _⟩
  rw [script_eq, script_eq, String.append_right_inj] at h
  have hmark := congrArg String.toList h
  simp only [String.toList_append] at hmark
  have hlength (name : String) : (truncateName name 16).toList.length ≤ 16 := by
    rw [String.length_toList]
    exact length_truncateName_le name 16
  obtain ⟨-, hback⟩ := eq_of_append_mark scriptMark_unbordered (by decide) (hlength _) (hlength _) hmark
  exact String.toList_inj.1 (by simpa using hback)

/-- A job needs no update to do what another plan says exactly if the plans make the same job. -/
theorem upToDate_cronJob_iff :
    upToDate (cronJob c plan account) (cronJob c plan' account') = true ↔ Alike c plan plan' := by
  simp only [upToDate, cronJob, CronJob.container?, sameRun, jobContainer, Option.bind_eq_bind, Option.bind_some,
    List.head?_cons, Bool.and_eq_true, decide_eq_true_eq, Option.some_inj, List.cons.injEq, and_true,
    EnvVar.mk.injEq, true_and, jobLabels_inj, Storage.Kind.text_inj]
  constructor
  · rintro ⟨⟨hjob, htime⟩, ⟨himage, hscript⟩, hkind⟩
    rw [hjob, script_inj] at hscript
    exact ⟨hjob, htime, hscript, himage, hkind⟩
  · rintro ⟨hjob, htime, hstorage, himage, hkind⟩
    exact ⟨⟨hjob, htime⟩, ⟨himage, by rw [hjob, hstorage]⟩, hkind⟩

/-- Plans that make the same job do so with every account. -/
theorem Alike.cronJob_eq (h : Alike c plan plan') (account : Option String) :
    cronJob c plan account = cronJob c plan' account := by
  simp only [cronJob, jobContainer, h.job, h.time, h.storage, h.image, h.kind]

/-- The account that the runs of a job use. -/
def account? (job : CronJob) : Option String :=
  ((job.spec.bind (·.jobTemplate.spec)).bind (·.template.spec)).bind (·.serviceAccountName)

theorem account?_cronJob (c : Cluster) (plan : BackupPlan) (account : Option String) :
    account? (cronJob c plan account) = account := rfl

/-- Two jobs of a cluster are the same exactly if neither the comparison tells them apart nor their accounts do; what
the comparison does not tell apart differs in the account at most. -/
theorem cronJob_eq_iff_upToDate (c : Cluster) (plan plan' : BackupPlan) (account account' : Option String) :
    (cronJob c plan account = cronJob c plan' account' ↔
        upToDate (cronJob c plan account) (cronJob c plan' account') = true ∧ account = account') ∧
      (upToDate (cronJob c plan account) (cronJob c plan' account') = true ↔
        cronJob c plan account' = cronJob c plan' account') := by
  have hsame : upToDate (cronJob c plan account) (cronJob c plan' account') = true ↔
      cronJob c plan account' = cronJob c plan' account' := by
    rw [upToDate_cronJob_iff]
    refine ⟨fun h ↦ h.cronJob_eq account', fun h ↦ ?_⟩
    have hself : upToDate (cronJob c plan account') (cronJob c plan' account') = true := by
      rw [h]
      exact upToDate_cronJob c plan' account' none
    exact upToDate_cronJob_iff.1 hself
  refine ⟨⟨fun h ↦ ?_, ?_⟩, hsame⟩
  · obtain rfl : account = account' := by rw [← account?_cronJob c plan account, h, account?_cronJob]
    exact ⟨hsame.2 h, rfl⟩
  · rintro ⟨h, rfl⟩
    exact hsame.1 h

/-- A cluster with a nightly backup. -/
private def guarded : Cluster where
  metadata := { ObjectMeta.empty with name := some "db", ns? := some "prod" }
  spec := ⟨⟨1, "image", true, ⟨none, "1Gi"⟩⟩, none, none, false, some ⟨"image", .ofList [("disk", .filesystem "claim")],
    [⟨"night", "0 0 * * *", 1, "disk"⟩]⟩⟩
  status := none

/-- What its job is made from. -/
private def guardedPlan : BackupPlan := ⟨⟨"night", "0 0 * * *", 1, "disk"⟩, .filesystem "claim", "image"⟩

/-- A job whose runs have no account is kept, although its runs are to have one. -/
theorem upToDate_guarded :
    upToDate (cronJob guarded guardedPlan none) (cronJob guarded guardedPlan (some "backup")) = true ∧
    cronJob guarded guardedPlan none ≠ cronJob guarded guardedPlan (some "backup") ∧
    Schedules.scheduleStep (some "backup") guarded guardedPlan.schedule (some (cronJob guarded guardedPlan none)) =
      .keep := by
  have hsame : upToDate (cronJob guarded guardedPlan none) (cronJob guarded guardedPlan (some "backup")) = true :=
    upToDate_cronJob_iff.2 ⟨rfl, rfl, rfl, rfl, rfl⟩
  refine ⟨hsame, fun h ↦ ?_, ?_⟩
  · have haccount := congrArg account? h
    rw [account?_cronJob, account?_cronJob] at haccount
    cases haccount
  · have hplan : Schedules.planOf guarded guardedPlan.schedule = some guardedPlan := by decide +kernel
    simp only [Schedules.scheduleStep, hplan, Schedules.jobStep, hsame, if_true]

end Backup

end GaleraOperator
