import GaleraOperator.Api.Call
import GaleraOperator.Api.Resource

/-!
# A model of the cluster

What a cluster holds, as lists of objects, and what the calls of its interface do to it when all goes well. Objects of
a kind are told apart by namespace and name. `find?_put` and `find?_remove` say what the two changes do to every
object.
-/

namespace GaleraOperator

open Kube

/-- Objects that carry metadata. -/
class HasMeta (α : Type) where
  metadata : α → ObjectMeta

instance : HasMeta Cluster := ⟨(·.metadata)⟩
instance : HasMeta Pod := ⟨(·.metadata)⟩
instance : HasMeta StatefulSet := ⟨(·.metadata)⟩
instance : HasMeta Claim := ⟨(·.metadata)⟩
instance : HasMeta Event := ⟨(·.metadata)⟩
instance : HasMeta CronJob := ⟨(·.metadata)⟩
instance : HasMeta Backup := ⟨(·.metadata)⟩

/-- Objects of one kind. -/
abbrev Objects (α : Type) := List α

namespace Objects

variable {α : Type} [HasMeta α]

/-- The namespace of an object. -/
def namespaceOf (x : α) : String := (HasMeta.metadata x).ns?.getD ""

/-- The name of an object. -/
def nameOf (x : α) : String := (HasMeta.metadata x).name.getD ""

/-- Whether an object has a namespace and a name. -/
def isAt (ns name : String) (x : α) : Bool := namespaceOf x = ns && nameOf x = name

/-- The object of a namespace and a name. -/
def find? (ns name : String) (xs : Objects α) : Option α := List.find? (isAt ns name) xs

/-- Put an object in the place of the one of its namespace and name, or else at the end. -/
def put (x : α) : Objects α → Objects α
  | [] => [x]
  | y :: ys => if isAt (namespaceOf x) (nameOf x) y then x :: ys else y :: put x ys

/-- Take out what has a namespace and a name. -/
def remove (ns name : String) (xs : Objects α) : Objects α := xs.filter fun x ↦ !isAt ns name x

/-- The objects of a namespace that a selector asks for. -/
def select (ns selector : String) (xs : Objects α) : List α :=
  xs.filter fun x ↦ namespaceOf x = ns && Selector.accepts selector (HasMeta.metadata x).labelsOrNone

omit [HasMeta α] in
theorem isAt_self [HasMeta α] (x : α) : isAt (namespaceOf x) (nameOf x) x = true := by simp [isAt]

/-- After a change the object is found under its own name, and every other object as before. -/
theorem find?_put (x : α) (ns name : String) (xs : Objects α) :
    find? ns name (put x xs) = if isAt ns name x then some x else find? ns name xs := by
  induction xs with
  | nil => by_cases h : isAt ns name x <;> simp [put, find?, h]
  | cons y ys ih =>
    simp only [find?] at ih
    by_cases hy : isAt (namespaceOf x) (nameOf x) y <;> by_cases hx : isAt ns name x
    · simp [put, find?, hy, hx]
    · have hn : isAt ns name y = false := by
        simp only [isAt, decide_eq_true_eq, Bool.and_eq_true] at hy hx
        simpa [isAt, hy.1, hy.2] using hx
      simp [put, find?, hy, hx, hn]
    · have hn : isAt ns name y = false := by
        simp only [isAt, decide_eq_true_eq, Bool.and_eq_true] at hy hx
        simp only [isAt, Bool.and_eq_false_iff, decide_eq_false_iff_not]
        rw [← hx.1, ← hx.2]
        exact Decidable.not_and_iff_or_not.1 hy
      simp [put, find?, hy, hx, hn, ih]
    · by_cases hn : isAt ns name y <;> simp [put, find?, hy, hx, hn, ih]

/-- After a removal nothing is found under the name, and every other object as before. -/
theorem find?_remove (ns name ns' name' : String) (xs : Objects α) :
    find? ns' name' (remove ns name xs) =
      if ns' = ns ∧ name' = name then none else find? ns' name' xs := by
  simp only [find?, remove, List.find?_filter]
  by_cases h : ns' = ns ∧ name' = name
  · obtain ⟨rfl, rfl⟩ := h
    simp
  · simp only [h, if_false]
    congr 1
    funext x
    grind [isAt]

end Objects

/-- What a cluster holds. -/
structure Store where
  clusters : Objects Cluster
  pods : Objects Pod
  statefulSets : Objects StatefulSet
  claims : Objects Claim
  events : Objects Event
  cronJobs : Objects CronJob
  backups : Objects Backup
  /-- The logs of pods, by namespace and name. -/
  logs : Dict String
  /-- What commands print, by namespace and name of the pod. -/
  outputs : Dict ExecOutput
  deriving DecidableEq, Repr

namespace Store

/-- A cluster that holds nothing. -/
def empty : Store := ⟨[], [], [], [], [], [], [], .empty, .empty⟩

instance : Inhabited Store := ⟨empty⟩

/-- Put an object behind those that are there. -/
def append (s : Store) : Resource → Store
  | .cluster c => { s with clusters := s.clusters ++ [c] }
  | .pod p => { s with pods := s.pods ++ [p] }
  | .statefulSet x => { s with statefulSets := s.statefulSets ++ [x] }
  | .claim c => { s with claims := s.claims ++ [c] }
  | .event e => { s with events := s.events ++ [e] }
  | .cronJob j => { s with cronJobs := s.cronJobs ++ [j] }
  | .backup b => { s with backups := s.backups ++ [b] }

/-- Put an object in the place of the one of its name. Events are no versions of each other: there is always room for
one more. -/
def put (s : Store) : Resource → Store
  | .cluster c => { s with clusters := s.clusters.put c }
  | .pod p => { s with pods := s.pods.put p }
  | .statefulSet x => { s with statefulSets := s.statefulSets.put x }
  | .claim c => { s with claims := s.claims.put c }
  | .event e => s.append (.event e)
  | .cronJob j => { s with cronJobs := s.cronJobs.put j }
  | .backup b => { s with backups := s.backups.put b }

/-- Take an object out. -/
def remove (s : Store) (ns name : String) : ResourceKind → Store
  | .cluster => { s with clusters := s.clusters.remove ns name }
  | .pod => { s with pods := s.pods.remove ns name }
  | .statefulSet => { s with statefulSets := s.statefulSets.remove ns name }
  | .claim => { s with claims := s.claims.remove ns name }
  | .event => { s with events := s.events.remove ns name }
  | .cronJob => { s with cronJobs := s.cronJobs.remove ns name }
  | .backup => { s with backups := s.backups.remove ns name }

/-- The object of a kind and a name. -/
def find? (s : Store) (ns name : String) : ResourceKind → Option Resource
  | .cluster => (s.clusters.find? ns name).map .cluster
  | .pod => (s.pods.find? ns name).map .pod
  | .statefulSet => (s.statefulSets.find? ns name).map .statefulSet
  | .claim => (s.claims.find? ns name).map .claim
  | .event => (s.events.find? ns name).map .event
  | .cronJob => (s.cronJobs.find? ns name).map .cronJob
  | .backup => (s.backups.find? ns name).map .backup

/-- The key of a pod. -/
def podKey (ns pod : String) : String := ns ++ "/" ++ pod

/-- What a call is answered with, and what becomes of the cluster. -/
def perform : (c : Call) → Store → c.Answer × Store
  | .getCluster ns name, s => (s.clusters.find? ns name, s)
  | .replaceCluster _ cluster, s => (cluster, { s with clusters := s.clusters.put cluster })
  | .replaceClusterStatus _ cluster, s => (cluster, { s with clusters := s.clusters.put cluster })
  | .listPods ns selector, s => (s.pods.select ns selector, s)
  | .getPod ns name, s => (s.pods.find? ns name, s)
  | .getStatefulSet ns name, s => (s.statefulSets.find? ns name, s)
  | .orphanStatefulSet ns name, s => ((), { s with statefulSets := s.statefulSets.remove ns name })
  | .listClaims ns selector, s => (s.claims.select ns selector, s)
  | .replaceClaim _ claim, s => (claim, { s with claims := s.claims.put claim })
  | .listEvents ns object, s =>
    (s.events.filter fun e ↦ Objects.namespaceOf e = ns && e.regardingName? = some object, s)
  | .listCronJobs ns selector, s => (s.cronJobs.select ns selector, s)
  | .getCronJob ns name, s => (s.cronJobs.find? ns name, s)
  | .createCronJob _ job, s => (job, { s with cronJobs := s.cronJobs.put job })
  | .replaceCronJob _ job, s => (job, { s with cronJobs := s.cronJobs.put job })
  | .deleteCronJob ns name, s => ((), { s with cronJobs := s.cronJobs.remove ns name })
  | .listBackups ns selector, s => (s.backups.select ns selector, s)
  | .deleteBackup ns name, s => ((), { s with backups := s.backups.remove ns name })
  | .logs ns pod _ _, s => ((s.logs.get? (podKey ns pod)).getD "", s)
  | .exec ns pod .., s => ((s.outputs.get? (podKey ns pod)).getD ⟨"", ""⟩, s)

end Store

end GaleraOperator
