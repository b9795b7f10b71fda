import GaleraOperator.Api.Call

/-!
# What calls are about

Which operation of the cluster's interface a call is, the namespace it is made in, and what it is directed at there.
-/

namespace GaleraOperator

/-- The operations of the cluster's interface. -/
inductive Operation where
  | getCluster
  | replaceCluster
  | replaceClusterStatus
  | listPods
  | getPod
  | getStatefulSet
  | orphanStatefulSet
  | listClaims
  | replaceClaim
  | listEvents
  | listCronJobs
  | getCronJob
  | createCronJob
  | replaceCronJob
  | deleteCronJob
  | listBackups
  | deleteBackup
  | logs
  | exec
  deriving DecidableEq, Repr

namespace Call

/-- The operation that a call is. -/
def operation : Call → Operation
  | .getCluster .. => .getCluster
  | .replaceCluster .. => .replaceCluster
  | .replaceClusterStatus .. => .replaceClusterStatus
  | .listPods .. => .listPods
  | .getPod .. => .getPod
  | .getStatefulSet .. => .getStatefulSet
  | .orphanStatefulSet .. => .orphanStatefulSet
  | .listClaims .. => .listClaims
  | .replaceClaim .. => .replaceClaim
  | .listEvents .. => .listEvents
  | .listCronJobs .. => .listCronJobs
  | .getCronJob .. => .getCronJob
  | .createCronJob .. => .createCronJob
  | .replaceCronJob .. => .replaceCronJob
  | .deleteCronJob .. => .deleteCronJob
  | .listBackups .. => .listBackups
  | .deleteBackup .. => .deleteBackup
  | .logs .. => .logs
  | .exec .. => .exec

/-- The namespace that a call is made in. -/
def ns : Call → String
  | .getCluster ns _ | .replaceCluster ns _ | .replaceClusterStatus ns _ | .listPods ns _ | .getPod ns _
  | .getStatefulSet ns _ | .orphanStatefulSet ns _ | .listClaims ns _ | .replaceClaim ns _ | .listEvents ns _
  | .listCronJobs ns _ | .getCronJob ns _ | .createCronJob ns _ | .replaceCronJob ns _ | .deleteCronJob ns _
  | .listBackups ns _ | .deleteBackup ns _ | .logs ns .. | .exec ns .. => ns

/-- The name of an object or of a pod, or the selector, that a call is directed at. -/
def subject : Call → String
  | .getCluster _ name | .getPod _ name | .getStatefulSet _ name | .orphanStatefulSet _ name
  | .getCronJob _ name | .deleteCronJob _ name | .deleteBackup _ name => name
  | .replaceCluster _ c | .replaceClusterStatus _ c => c.name
  | .replaceClaim _ claim => claim.name
  | .createCronJob _ job | .replaceCronJob _ job => job.name
  | .listPods _ selector | .listClaims _ selector | .listCronJobs _ selector | .listBackups _ selector => selector
  | .listEvents _ object => object
  | .logs _ pod .. | .exec _ pod .. => pod

end Call

end GaleraOperator
