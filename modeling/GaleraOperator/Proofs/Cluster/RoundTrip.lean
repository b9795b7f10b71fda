import GaleraOperator.Cluster.Basic
import GaleraOperator.Proofs.Json.Records

/-!
# Clusters that are read back

Whatever an owner asks for and whatever is known of a cluster is read back as it was written: a member that is left out
where it is empty has the empty value as its default, and every member is read under the name that it is written under.
So the operator changes nothing of a cluster that it reads and writes again.
-/

namespace GaleraOperator

open Json Decoder Fields

/-! ## What the owner asks for -/

theorem VolumeSpec.reads (v : VolumeSpec) : decoder.Reads v.toJson v := by
  refine ReadsFrom.reads (.seq (.map mk ?_) ?_) (by decide) (by simp) .strict _
  · exact .optional rfl text_reads
  · exact .required rfl (text_reads v.storage)

theorem DatabaseSpec.reads (d : DatabaseSpec) : decoder.Reads d.toJson d := by
  refine ReadsFrom.reads (.seq (.seq (.seq (.map mk ?_) ?_) ?_) ?_) (by decide) (by simp) .strict _
  · exact .defaulted rfl (int32_reads d.size)
  · exact .required rfl (text_reads d.image)
  · exact .defaulted rfl (truth_reads d.autoRecovery)
  · exact .required rfl d.volume.reads

theorem ProxySpec.reads (p : ProxySpec) : decoder.Reads p.toJson p := by
  refine ReadsFrom.reads (.seq (.seq (.map mk ?_) ?_) ?_) (by decide) (by simp) .strict _
  · exact .defaulted rfl (truth_reads p.enabled)
  · exact .defaulted rfl (int32_reads p.size)
  · exact .optional rfl text_reads

/-- A destination is read back by the decoder of its own type. -/
theorem Storage.reads (s : Storage) : decoder.Reads s.toJson s := by
  cases s with
  | s3 bucket region endpointUrl credentialsSecret =>
    refine ReadsFrom.reads_tagged (.seq (.seq (.seq (.map s3 ?_) ?_) ?_) ?_) (by decide) (by simp [fields]) rfl
    · exact .required rfl (text_reads bucket)
    · exact .optional rfl text_reads
    · exact .optional rfl text_reads
    · exact .required rfl (text_reads credentialsSecret)
  | azure container credentialsSecret =>
    refine ReadsFrom.reads_tagged (.seq (.map azure ?_) ?_) (by decide) (by simp [fields]) rfl
    · exact .required rfl (text_reads container)
    · exact .required rfl (text_reads credentialsSecret)
  | filesystem claimName =>
    refine ReadsFrom.reads_tagged (.map filesystem ?_) (by decide) (by simp [fields]) rfl
    exact .required rfl (text_reads claimName)

theorem Schedule.reads (s : Schedule) : decoder.Reads s.toJson s := by
  refine ReadsFrom.reads (.seq (.seq (.seq (.map mk ?_) ?_) ?_) ?_) (by decide) (by simp) .strict _
  · exact .required rfl (text_reads s.name)
  · exact .required rfl (text_reads s.schedule)
  · exact .defaulted rfl (uint32_reads s.keep)
  · exact .required rfl (text_reads s.storageName)

theorem BackupSpec.reads (b : BackupSpec) : decoder.Reads b.toJson b := by
  refine ReadsFrom.reads (.seq (.seq (.map mk ?_) ?_) ?_) (by decide) (by simp) .strict _
  · exact .required rfl (text_reads b.image)
  · exact .defaulted rfl (dict_reads Storage.reads b.storages)
  · exact .defaulted rfl (list_reads Schedule.reads b.schedules)

theorem ClusterSpec.reads (s : ClusterSpec) : decoder.Reads s.toJson s := by
  refine ReadsFrom.reads (.seq (.seq (.seq (.seq (.map mk ?_) ?_) ?_) ?_) ?_) (by decide) (by simp) .strict _
  · exact .required rfl s.database.reads
  · exact .optional rfl ProxySpec.reads
  · exact .optional rfl ProxySpec.reads
  · exact .defaulted rfl (truth_reads s.paused)
  · exact .optional rfl BackupSpec.reads

/-! ## What is known -/

theorem ClusterState.reads (s : ClusterState) : decoder.Reads s.toJson s := by
  cases s <;> exact ⟨by simp [toJson], _, rfl, by simp, rfl⟩

section Omitted

variable {get : String → Option Json} {name : String}

/-- A text that is left out when it is empty is read back where that is the default. -/
theorem readsFrom_nonEmptyText {s : String} (hget : get name = nonEmptyText s) :
    (defaulted name "" .text).ReadsFrom get s := by
  by_cases hs : s.isEmpty = true
  · rw [nonEmptyText, if_pos hs] at hget
    obtain rfl := String.isEmpty_iff.1 hs
    exact .default hget
  · rw [nonEmptyText, if_neg hs] at hget
    exact .defaulted hget (text_reads s)

/-- A list that is left out when it is empty is read back where that is the default. -/
theorem readsFrom_nonEmptyList {α : Type} {item : Decoder α} {write : α → Json} {as : List α}
    (hget : get name = ClusterStatus.nonEmptyList (as.map write)) (h : ∀ a, item.Reads (write a) a) :
    (defaulted name [] (.list item)).ReadsFrom get as := by
  cases as with
  | nil => exact .default hget
  | cons a as => exact .defaulted hget (list_reads h (a :: as))

end Omitted

theorem TierStatus.reads (s : TierStatus) : decoder.Reads s.toJson s := by
  refine ReadsFrom.reads (.seq (.seq (.seq (.map mk ?_) ?_) ?_) ?_) (by decide) (by simp) .strict _
  · exact .defaulted rfl (int32_reads s.size)
  · exact .defaulted rfl (int32_reads s.ready)
  · exact .defaulted rfl s.state.reads
  · exact readsFrom_nonEmptyText rfl

theorem StateChange.reads (c : StateChange) : decoder.Reads c.toJson c := by
  refine ReadsFrom.reads (.seq (.seq (.seq (.seq (.map mk ?_) ?_) ?_) ?_) ?_) (by decide) (by simp) .strict _
  · exact .required rfl c.state.reads
  · exact .required rfl (text_reads c.status)
  · exact readsFrom_nonEmptyText rfl
  · exact readsFrom_nonEmptyText rfl
  · exact .required rfl (text_reads c.time)

theorem ClusterStatus.reads (s : ClusterStatus) : decoder.Reads s.toJson s := by
  refine ReadsFrom.reads (.seq (.seq (.seq (.seq (.seq (.seq (.seq (.map mk ?_) ?_) ?_) ?_) ?_) ?_) ?_) ?_)
    (by decide) (by simp) .strict _
  · exact .optional rfl TierStatus.reads
  · exact .optional rfl TierStatus.reads
  · exact .optional rfl TierStatus.reads
  · exact .defaulted rfl s.state.reads
  · exact .optional rfl text_reads
  · exact readsFrom_nonEmptyList rfl text_reads
  · exact readsFrom_nonEmptyList rfl StateChange.reads
  · exact .optional rfl int64_reads

/-! ## The whole -/

/-- A cluster is read back as it was written but for its metadata, which is what its own document is read as. -/
theorem Cluster.reads (c : Cluster) {m : Kube.ObjectMeta}
    (h : Kube.ObjectMeta.decoder.ofJson c.metadata.toJson = some m) : decoder.Reads c.toJson { c with metadata := m } := by
  refine ReadsFrom.reads (.seq (.seq (.map mk ?_) ?_) ?_) (by decide) (by simp [Kube.typeFields]) .strict _
  · exact .required rfl (record_reads_of_ofJson h)
  · exact .required rfl c.spec.reads
  · exact .nullable rfl ClusterStatus.reads

/-- Whatever is asked for and whatever is known is read back as it was written, by itself and as a part of a cluster. So
what was read from any document is read again from what is written for it. -/
theorem Cluster.ofJson_toJson_unchanged (spec : ClusterSpec) (status : ClusterStatus) :
    ClusterSpec.decoder.ofJson spec.toJson = some spec ∧
    ClusterStatus.decoder.ofJson status.toJson = some status ∧
    (∀ j, (ClusterSpec.decoder.ofJson j).bind (ClusterSpec.decoder.ofJson ·.toJson) = ClusterSpec.decoder.ofJson j) ∧
    (∀ j, (ClusterStatus.decoder.ofJson j).bind (ClusterStatus.decoder.ofJson ·.toJson) =
      ClusterStatus.decoder.ofJson j) ∧
    ∀ metadata m, Kube.ObjectMeta.decoder.ofJson metadata.toJson = some m →
      decoder.ofJson (Cluster.mk metadata spec (some status)).toJson = some ⟨m, spec, some status⟩ ∧
      decoder.ofJson (Cluster.mk metadata spec none).toJson = some ⟨m, spec, none⟩ := by
  have hspec (s : ClusterSpec) : ClusterSpec.decoder.ofJson s.toJson = some s := s.reads.ofJson
  have hstatus (s : ClusterStatus) : ClusterStatus.decoder.ofJson s.toJson = some s := s.reads.ofJson
  refine ⟨hspec spec, hstatus status, fun j ↦ ?_, fun j ↦ ?_, fun metadata m h ↦ ?_⟩
  · simp only [hspec, Option.bind_fun_some]
  · simp only [hstatus, Option.bind_fun_some]
  · exact ⟨(Cluster.reads ⟨metadata, spec, some status⟩ h).ofJson, (Cluster.reads ⟨metadata, spec, none⟩ h).ofJson⟩

/-- A cluster with backups to three kinds of destinations. -/
private def clusterWithBackups : ClusterSpec where
  database := ⟨3, "pxc:8.4", true, none, "10Gi"⟩
  haproxy := some ⟨true, -1, some "haproxy:3"⟩
  proxysql := none
  paused := false
  backup := some {
    image := "backup:8.4"
    storages := .ofList [("remote", .s3 "bucket" none (some "https://store") "keys"), ("", .azure "box" "keys"),
      ("local", .filesystem "claim")]
    schedules := [⟨"nightly", "0 2 * * *", 4294967295, "remote"⟩] }

/-- What is known of a cluster that just became ready. -/
private def statusOfReady : ClusterStatus where
  database := some ⟨3, 2, .ready, ""⟩
  haproxy := some ⟨0, 0, .error, "no pods"⟩
  proxysql := none
  state := .ready
  host := some ""
  messages := []
  history := [⟨.initializing, "True", "", "", ""⟩, ⟨.ready, "True", "AllReady", "", "2026-01-01T00:00:00Z"⟩]
  observedGeneration := some (-1)

/-- Metadata with a name and a label is read back as well. -/
theorem Cluster.ofJson_toJson_unchanged_withBackups :
    let m := { Kube.ObjectMeta.empty with name := some "db", labels := some (.ofList [("team", "")]) }
    Kube.ObjectMeta.decoder.ofJson m.toJson = some m ∧
      decoder.ofJson (Cluster.mk m clusterWithBackups (some statusOfReady)).toJson =
        some ⟨m, clusterWithBackups, some statusOfReady⟩ := by
  intro m
  have hm : Kube.ObjectMeta.decoder.ofJson m.toJson = some m := by decide +kernel
  exact ⟨hm, ((Cluster.ofJson_toJson_unchanged clusterWithBackups statusOfReady).2.2.2.2 m m hm).1⟩

end GaleraOperator
