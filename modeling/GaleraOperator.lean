import GaleraOperator.Api.Call
import GaleraOperator.Api.Resource
import GaleraOperator.Api.Store
import GaleraOperator.Api.Subject
import GaleraOperator.Api.Testbed
import GaleraOperator.Backoff
import GaleraOperator.Backup.Job
import GaleraOperator.Backup.Record
import GaleraOperator.Backup.Retention
import GaleraOperator.Backup.Schedules
import GaleraOperator.Cluster.Basic
import GaleraOperator.Cluster.Spec
import GaleraOperator.Cluster.State
import GaleraOperator.Cluster.Status
import GaleraOperator.Cluster.Tier
import GaleraOperator.Control.Memory
import GaleraOperator.Control.Reconcile
import GaleraOperator.Control.Run
import GaleraOperator.Control.Site
import GaleraOperator.Control.Watch
import GaleraOperator.Dict
import GaleraOperator.Error
import GaleraOperator.Exec.Session
import GaleraOperator.Health.Measurement
import GaleraOperator.Health.Metrics
import GaleraOperator.Health.Probe
import GaleraOperator.Http.Client
import GaleraOperator.Http.Reply
import GaleraOperator.Http.Request
import GaleraOperator.Http.Script
import GaleraOperator.Http.StatusCode
import GaleraOperator.Instant.Basic
import GaleraOperator.Instant.Calendar
import GaleraOperator.Instant.Printer
import GaleraOperator.Instant.Reader
import GaleraOperator.Json.Basic
import GaleraOperator.Json.Decode
import GaleraOperator.Json.Fault
import GaleraOperator.Json.Number
import GaleraOperator.Json.Printer
import GaleraOperator.Json.Reader
import GaleraOperator.Json.Shape.Basic
import GaleraOperator.Json.Shape.Reader
import GaleraOperator.Kube.Claim
import GaleraOperator.Kube.Condition
import GaleraOperator.Kube.Container
import GaleraOperator.Kube.CronJob
import GaleraOperator.Kube.Event
import GaleraOperator.Kube.Meta
import GaleraOperator.Kube.Pod
import GaleraOperator.Kube.PodSpec
import GaleraOperator.Kube.Reference
import GaleraOperator.Kube.StatefulSet
import GaleraOperator.Kube.Volume
import GaleraOperator.Naming
import GaleraOperator.Pass.Basic
import GaleraOperator.Pass.ClusterAccess
import GaleraOperator.Pass.Interaction
import GaleraOperator.Proofs.Backoff.Collapse
import GaleraOperator.Proofs.Backoff.Doubles
import GaleraOperator.Proofs.Backup.Alignment
import GaleraOperator.Proofs.Backup.Convergence
import GaleraOperator.Proofs.Backup.Detection
import GaleraOperator.Proofs.Backup.HereDocument
import GaleraOperator.Proofs.Backup.Isolation
import GaleraOperator.Proofs.Backup.JobSteps
import GaleraOperator.Proofs.Backup.Manifest
import GaleraOperator.Proofs.Backup.OldestFirst
import GaleraOperator.Proofs.Backup.OneToOne
import GaleraOperator.Proofs.Backup.Pruning
import GaleraOperator.Proofs.Backup.Quoting
import GaleraOperator.Proofs.Backup.Registry
import GaleraOperator.Proofs.Backup.Retention
import GaleraOperator.Proofs.Backup.Schedules
import GaleraOperator.Proofs.Backup.Settled
import GaleraOperator.Proofs.Cluster.RoundTrip
import GaleraOperator.Proofs.ClusterAccess
import GaleraOperator.Proofs.ClusterWrite
import GaleraOperator.Proofs.Control.Containment
import GaleraOperator.Proofs.Control.Failures
import GaleraOperator.Proofs.Control.Quiescence
import GaleraOperator.Proofs.Control.Reports
import GaleraOperator.Proofs.Control.Steps
import GaleraOperator.Proofs.Control.Telling
import GaleraOperator.Proofs.Dict
import GaleraOperator.Proofs.Instant.Calendar
import GaleraOperator.Proofs.Instant.RoundTrip
import GaleraOperator.Proofs.Json.Records
import GaleraOperator.Proofs.Naming
import GaleraOperator.Proofs.Objects
import GaleraOperator.Proofs.Owners
import GaleraOperator.Proofs.Quantity
import GaleraOperator.Proofs.Quantity.Alignment
import GaleraOperator.Proofs.Quantity.Grammar
import GaleraOperator.Proofs.Recovery.Banner
import GaleraOperator.Proofs.Recovery.Evidence
import GaleraOperator.Proofs.Recovery.Leader
import GaleraOperator.Proofs.Recovery.SequenceNumber
import GaleraOperator.Proofs.Recovery.Undeclared
import GaleraOperator.Proofs.Replay
import GaleraOperator.Proofs.Retry
import GaleraOperator.Proofs.Run
import GaleraOperator.Proofs.Selector
import GaleraOperator.Proofs.Serve
import GaleraOperator.Proofs.SharedServer
import GaleraOperator.Proofs.Status.Aggregation
import GaleraOperator.Proofs.Status.History
import GaleraOperator.Proofs.Status.Rollout
import GaleraOperator.Proofs.Status.Update
import GaleraOperator.Proofs.Status.Worst
import GaleraOperator.Proofs.Status.Writing
import GaleraOperator.Proofs.Undisturbed
import GaleraOperator.Proofs.Volume.Basic
import GaleraOperator.Proofs.Volume.Classification
import GaleraOperator.Proofs.Volume.ClusterWrites
import GaleraOperator.Proofs.Volume.Growth
import GaleraOperator.Proofs.Volume.Halfway
import GaleraOperator.Proofs.Volume.Interruption
import GaleraOperator.Proofs.Volume.Overflow
import GaleraOperator.Proofs.Volume.Progress
import GaleraOperator.Proofs.Volume.Quiet
import GaleraOperator.Proofs.Volume.Reconcile
import GaleraOperator.Proofs.Volume.Rest
import GaleraOperator.Proofs.Volume.Rollback
import GaleraOperator.Proofs.Volume.Shrinking
import GaleraOperator.Proofs.Volume.StaleCopy
import GaleraOperator.Proofs.Volume.StartTime
import GaleraOperator.Proofs.Volume.Target
import GaleraOperator.Proofs.Volume.Transition
import GaleraOperator.Quantity
import GaleraOperator.Recovery.Basic
import GaleraOperator.Recovery.CrashLog
import GaleraOperator.Recovery.Leader
import GaleraOperator.Retry
import GaleraOperator.Selector
import GaleraOperator.Settings
import GaleraOperator.Status.Aggregate
import GaleraOperator.Status.Observation
import GaleraOperator.Status.Update
import GaleraOperator.Status.Write
import GaleraOperator.Text.Blank
import GaleraOperator.Text.Digit
import GaleraOperator.Text.Form
import GaleraOperator.Text.Grisu
import GaleraOperator.Text.Integer
import GaleraOperator.Text.Printable
import GaleraOperator.Text.Quoted
import GaleraOperator.Text.Search
import GaleraOperator.Text.Shortest
import GaleraOperator.Text.Utf8
import GaleraOperator.Volume.Reconcile
import GaleraOperator.Volume.Resize
