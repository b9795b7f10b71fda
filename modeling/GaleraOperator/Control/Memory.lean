import GaleraOperator.Backup.Schedules

/-!
# What the operator remembers between passes

For every cluster: which backup jobs were made from what, and how many passes in a row have failed. Nothing of it has
to survive a restart.
-/

namespace GaleraOperator

/-- What the operator remembers between passes, by the keys of clusters. -/
structure Memory where
  registries : Dict Registry
  failures : Dict UInt32
  deriving DecidableEq, Repr

/-- The key under which things are remembered of a cluster. -/
def clusterKey (ns name : String) : String := ns ++ "/" ++ name

namespace Memory

/-- The memory of an operator that has just started. -/
def empty : Memory := ⟨.empty, .empty⟩

instance : Inhabited Memory := ⟨empty⟩

/-- The registry of a cluster. -/
def registry (m : Memory) (key : String) : Registry := (m.registries.get? key).getD .empty

/-- Keep a registry for a cluster. -/
def withRegistry (m : Memory) (key : String) (r : Registry) : Memory :=
  { m with registries := m.registries.insert key r }

/-- The number of passes in a row that have failed. -/
def failureCount (m : Memory) (key : String) : UInt32 := (m.failures.get? key).getD 0

/-- One more, up to the greatest number. -/
def countUp (n : UInt32) : UInt32 := if n = UInt32.ofNat Text.maxU32 then n else n + 1

/-- Count a pass that has failed. -/
def recordFailure (m : Memory) (key : String) : Memory :=
  { m with failures := m.failures.insert key (countUp (m.failureCount key)) }

/-- Forget about failures. -/
def clearFailures (m : Memory) (key : String) : Memory := { m with failures := m.failures.erase key }

/-- Forget all about a cluster. -/
def forget (m : Memory) (key : String) : Memory :=
  { m with registries := m.registries.erase key }.clearFailures key

end Memory

end GaleraOperator
