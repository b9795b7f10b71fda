import GaleraOperator.Backoff
import GaleraOperator.Dict
import GaleraOperator.Text.Integer

/-!
# Settings

How the operator runs, as read from the variables of its environment. A variable that does not hold what it should
counts as not set.
-/

namespace GaleraOperator

/-- How the operator runs. -/
structure Settings where
  /-- The only namespace to look after, or all of them. -/
  watchNamespace : Option String
  /-- The time between passes that succeed. -/
  interval : Duration
  /-- The time that a pod is given to start a new cluster. -/
  settle : Duration
  /-- How often a write that conflicts is attempted. -/
  writeAttempts : UInt32
  /-- The account that backups run under. -/
  serviceAccount : Option String
  deriving DecidableEq, Repr

namespace Settings

/-- The settings of an empty environment. -/
def standard : Settings where
  watchNamespace := none
  interval := 5 * Duration.second
  settle := 10 * Duration.second
  writeAttempts := 5
  serviceAccount := none

/-- A variable with a text in it. -/
def textOf (env : Dict String) (key : String) : Option String := (env.get? key).filter (!·.isEmpty)

/-- A variable with a natural number up to `bound`. -/
def numberOf (env : Dict String) (key : String) (bound : Nat) : Option Nat := do
  (Text.readNatural bound (← env.get? key).toList).toOption

/-- A variable with a span of time in seconds. -/
def secondsOf (env : Dict String) (key : String) : Option Duration :=
  (numberOf env key Text.maxU64).map (· * Duration.second)

/-- Read settings from the variables of an environment. -/
def ofEnvironment (env : Dict String) : Settings where
  watchNamespace := textOf env "WATCH_NAMESPACE"
  interval := (secondsOf env "RECONCILE_INTERVAL_SECS").getD standard.interval
  settle := (secondsOf env "RECOVERY_SETTLE_SECS").getD standard.settle
  writeAttempts :=
    (((numberOf env "STATUS_WRITE_RETRIES" Text.maxU32).filter (0 < ·)).map UInt32.ofNat).getD standard.writeAttempts
  serviceAccount := textOf env "BACKUP_SERVICE_ACCOUNT"

end Settings

end GaleraOperator
