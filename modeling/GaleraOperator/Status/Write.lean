import GaleraOperator.Pass.ClusterAccess
import GaleraOperator.Status.Update

/-!
# Writing the status

Every attempt reads the cluster afresh, puts the update onto the status it finds there, and writes only if that
changed something. What lost against another writer is tried again.
-/

namespace GaleraOperator

open Pass

variable {σ : Type}

/-- One attempt to write the status. -/
def StatusUpdate.writeOnce (u : StatusUpdate) (ns name : String) : Pass σ Unit := do
  let latest ← fetchCluster ns name
  let status := latest.status.getD .initial
  let time ← now
  if u.needsWrite time status then
    let _ ← call (.replaceClusterStatus ns { latest with status := some (u.apply time status) })

/-- Write the status; that every attempt lost against another writer is an error of its own. -/
def StatusUpdate.write (u : StatusUpdate) (settings : Settings) (c : Cluster) : Pass σ Unit := do
  let some ns := c.metadata.ns? | fail .missingNamespace
  match ← attempt (retryOnConflict settings.writeAttempts (u.writeOnce ns c.name)) with
  | .ok () => return
  | .error e => if e.isConflict then fail (.statusWrite e.message) else fail e

end GaleraOperator
