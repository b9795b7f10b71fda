import GaleraOperator.Health.Measurement
import GaleraOperator.Text.Grisu

/-!
# Metrics

What was measured, added up for every cluster, and the text in which it is collected. A family holds one value for
every combination of labels that was ever measured.
-/

namespace GaleraOperator

/-- The names and values by which the members of a family are told apart. -/
abbrev SampleLabels := List (String × String)

/-- Values by labels, in the order in which the labels were first seen. -/
abbrev Family (α : Type) := List (SampleLabels × α)

/-- Change the value under labels; where there is none yet, the change starts from `fresh`. -/
def Family.update {α : Type} (fresh : α) (labels : SampleLabels) (change : α → α) : Family α → Family α
  | [] => [(labels, change fresh)]
  | (known, value) :: rest =>
    if known = labels then (known, change value) :: rest else (known, value) :: Family.update fresh labels change rest

/-- Durations: how many there were, their sum, and how many fell between two bounds. -/
structure Histogram where
  sum : Float
  count : UInt64
  /-- For every bound the durations up to it and above the bound before. -/
  buckets : List (Float × UInt64)
  /-- The durations above every bound. -/
  above : UInt64

namespace Histogram

/-- The histogram without durations. The bounds double from a millisecond on. -/
def empty : Histogram :=
  ⟨0, 0, (List.range 15).map fun n ↦ (0.001 * Float.ofNat (Nat.pow 2 n), 0), 0⟩

/-- Count a duration in the first bucket that it fits. -/
def place (seconds : Float) : List (Float × UInt64) → UInt64 → List (Float × UInt64) × UInt64
  | [], above => ([], above + 1)
  | (bound, count) :: rest, above =>
    if bound >= seconds then ((bound, count + 1) :: rest, above)
    else
      let (rest, above) := place seconds rest above
      ((bound, count) :: rest, above)

/-- Count a duration. -/
def observe (seconds : Float) (h : Histogram) : Histogram :=
  let (buckets, above) := place seconds h.buckets h.above
  ⟨h.sum + seconds, h.count + 1, buckets, above⟩

/-- For every bound the number of durations up to it, given how many there are below. -/
def cumulative (below : UInt64) : List (Float × UInt64) → List (Float × UInt64)
  | [] => []
  | (bound, count) :: rest => (bound, below + count) :: cumulative (below + count) rest

end Histogram

/-- Everything that was measured. -/
structure Metrics where
  passes : Family UInt64
  failures : Family UInt64
  durations : Family Histogram
  desired : Family Int
  ready : Family Int
  recoveries : Family UInt64
  pruned : Family UInt64
  resizes : Family UInt64

namespace Metrics

/-- The metrics before anything was measured. -/
def empty : Metrics := ⟨[], [], [], [], [], [], [], []⟩

instance : Inhabited Metrics := ⟨empty⟩

/-- The labels of a cluster. -/
def clusterLabels (ns name : String) : SampleLabels := [("namespace", ns), ("name", name)]

/-- Add up a measurement; `seconds` is how long the pass took that it was made in. -/
def record (m : Metrics) (ns name : String) (seconds : Float) : Measurement → Metrics
  | .passed =>
    { m with
      passes := m.passes.update 0 (clusterLabels ns name) (· + 1)
      durations := m.durations.update .empty (clusterLabels ns name) (·.observe seconds) }
  | .failed => { m with failures := m.failures.update 0 (clusterLabels ns name) (· + 1) }
  | .pods tier desired ready =>
    let labels := clusterLabels ns name ++ [("component", tier)]
    { m with
      desired := m.desired.update 0 labels fun _ ↦ desired
      ready := m.ready.update 0 labels fun _ ↦ ready }
  | .recovered => { m with recoveries := m.recoveries.update 0 (clusterLabels ns name) (· + 1) }
  | .pruned count => { m with pruned := m.pruned.update 0 (clusterLabels ns name) (· + .ofNat count) }
  | .resized outcome =>
    { m with resizes := m.resizes.update 0 (clusterLabels ns name ++ [("outcome", outcome)]) (· + 1) }

/-- Numbers of metrics are written out up to 21 digits before the point and five zeros after it, and always show that
they need not be whole. -/
def numberFormat : Text.DecimalFormat where
  mostWhole := 21
  mostZeros := 5
  wholeEnd := ['.', '0']
  powerSign := []
  infinity := "inf"
  notANumber := "NaN"

/-- The text of a number of metrics. -/
def numberText (x : Float) : String := numberFormat.textWith Text.Grisu.digits x

/-- The beginning of every name. -/
def stem : String := "xtradb_operator_"

/-- One sample; the values of labels are written as they are. -/
def sample (name : String) (labels : SampleLabels) (value : String) : String :=
  stem ++ name ++ "\x7b" ++
    String.intercalate "," (labels.map fun (key, text) ↦ key ++ "=\"" ++ text ++ "\"") ++ "\x7d " ++ value

/-- The lines of a family: what it is, and its samples. -/
def familyLines {α : Type} (name help kind : String) (samples : SampleLabels → α → List String)
    (family : Family α) : List String :=
  ("# HELP " ++ stem ++ name ++ " " ++ help ++ ".") :: ("# TYPE " ++ stem ++ name ++ " " ++ kind) ::
    family.flatMap fun (labels, value) ↦ samples labels value

/-- The lines of a family of counters. -/
def counterLines (name help : String) : Family UInt64 → List String :=
  familyLines name help "counter" fun labels value ↦ [sample (name ++ "_total") labels (toString value.toNat)]

/-- The lines of a family of values that go up and down. -/
def gaugeLines (name help : String) : Family Int → List String :=
  familyLines name help "gauge" fun labels value ↦ [sample name labels (toString value)]

/-- The lines of a family of histograms. -/
def histogramLines (name help : String) : Family Histogram → List String :=
  familyLines name help "histogram" fun labels h ↦
    [sample (name ++ "_sum") labels (numberText h.sum),
      sample (name ++ "_count") labels (toString h.count.toNat)] ++
    ((Histogram.cumulative 0 h.buckets).map fun (bound, count) ↦
      sample (name ++ "_bucket") (("le", numberText bound) :: labels) (toString count.toNat)) ++
    [sample (name ++ "_bucket") (("le", "+Inf") :: labels)
      (toString ((h.buckets.map Prod.snd).foldl (· + ·) h.above).toNat)]

/-- The lines of everything that was measured. -/
def lines (m : Metrics) : List String :=
  counterLines "reconciliations" "Total number of reconcile passes" m.passes ++
  counterLines "reconciliation_errors" "Total number of failed reconcile passes" m.failures ++
  histogramLines "reconcile_duration_seconds" "Duration of a reconcile pass in seconds" m.durations ++
  gaugeLines "component_pods_desired" "Declared pod count per cluster component" m.desired ++
  gaugeLines "component_pods_ready" "Ready pod count per cluster component" m.ready ++
  counterLines "crash_recoveries" "Full-cluster crash recoveries signalled" m.recoveries ++
  counterLines "backups_pruned" "Scheduled backups deleted by retention" m.pruned ++
  counterLines "volume_resizes" "Data volume resize transitions by outcome" m.resizes ++
  ["# EOF"]

/-- The text in which metrics are collected. -/
def text (m : Metrics) : String := String.join (m.lines.map (· ++ "\n"))

end Metrics

end GaleraOperator
