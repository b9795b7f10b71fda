import GaleraOperator.Backup.Record
import GaleraOperator.Cluster.Basic
import GaleraOperator.Kube.CronJob
import GaleraOperator.Kube.Event
import GaleraOperator.Kube.Pod
import GaleraOperator.Kube.StatefulSet

/-!
# Calls of the cluster's interface

Everything that the operator can ask of the cluster it runs in, each call with the type of its answer. What a call
does is for an interpretation to say: this module only gives the language.
-/

namespace GaleraOperator

open Kube

/-- What a command in a container printed. -/
structure ExecOutput where
  stdout : String
  stderr : String
  deriving DecidableEq, Repr

/-- A request to the cluster's interface, within a namespace. -/
inductive Call where
  | getCluster (ns name : String)
  | replaceCluster (ns : String) (cluster : Cluster)
  | replaceClusterStatus (ns : String) (cluster : Cluster)
  | listPods (ns selector : String)
  | getPod (ns name : String)
  | getStatefulSet (ns name : String)
  /-- Delete a StatefulSet but leave its pods and their claims. -/
  | orphanStatefulSet (ns name : String)
  | listClaims (ns selector : String)
  | replaceClaim (ns : String) (claim : Claim)
  /-- The events about an object. -/
  | listEvents (ns object : String)
  | listCronJobs (ns selector : String)
  | getCronJob (ns name : String)
  | createCronJob (ns : String) (job : CronJob)
  | replaceCronJob (ns : String) (job : CronJob)
  | deleteCronJob (ns name : String)
  | listBackups (ns selector : String)
  | deleteBackup (ns name : String)
  /-- The last lines of the log of a container. -/
  | logs (ns pod container : String) (lines : Int)
  /-- Run a command in a container. -/
  | exec (ns pod container : String) (command : List String) (stdin : Option String) (tty : Bool)
  deriving DecidableEq, Repr

namespace Call

/-- What a call that succeeds is answered with. -/
abbrev Answer : Call → Type
  | .getCluster .. => Option Cluster
  | .replaceCluster .. => Cluster
  | .replaceClusterStatus .. => Cluster
  | .listPods .. => List Pod
  | .getPod .. => Option Pod
  | .getStatefulSet .. => Option StatefulSet
  | .orphanStatefulSet .. => Unit
  | .listClaims .. => List Claim
  | .replaceClaim .. => Claim
  | .listEvents .. => List Event
  | .listCronJobs .. => List CronJob
  | .getCronJob .. => Option CronJob
  | .createCronJob .. => CronJob
  | .replaceCronJob .. => CronJob
  | .deleteCronJob .. => Unit
  | .listBackups .. => List Backup
  | .deleteBackup .. => Unit
  | .logs .. => String
  | .exec .. => ExecOutput

/-- Whether a call changes what the cluster holds. -/
def isWrite : Call → Bool
  | .replaceCluster .. | .replaceClusterStatus .. | .orphanStatefulSet .. | .replaceClaim .. | .createCronJob ..
  | .replaceCronJob .. | .deleteCronJob .. | .deleteBackup .. => true
  | .getCluster .. | .listPods .. | .getPod .. | .getStatefulSet .. | .listClaims .. | .listEvents ..
  | .listCronJobs .. | .getCronJob .. | .listBackups .. | .logs .. | .exec .. => false

end Call

end GaleraOperator
