import GaleraOperator.Pass.Basic
import GaleraOperator.Settings

/-!
# Changing a cluster

The operator shares the cluster resource with its owner. It reads the resource afresh before every change, changes
only what is its own, and tries again what lost against another writer.
-/

namespace GaleraOperator.Pass

variable {σ : Type}

/-- Read a cluster that has to exist. -/
def fetchCluster (ns name : String) : Pass σ Cluster := do
  match ← call (.getCluster ns name) with
  | some c => return c
  | none => fail (.notFound (ns ++ "/" ++ name))

/-- One attempt to change a cluster; `none` says that there is nothing to change. -/
def changeClusterOnce (ns name : String) (change : Cluster → Option Cluster) : Pass σ Unit := do
  match change (← fetchCluster ns name) with
  | none => return
  | some changed =>
    let _ ← call (.replaceCluster ns changed)

/-- Change a cluster. -/
def changeCluster (settings : Settings) (ns name : String) (change : Cluster → Option Cluster) : Pass σ Unit :=
  retryOnConflict settings.writeAttempts (changeClusterOnce ns name change)

end GaleraOperator.Pass
