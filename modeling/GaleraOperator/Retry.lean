/-!
# Repeating what failed

An attempt is repeated while it fails for a reason that may pass, up to a limit. `pause` is what happens between two
attempts; it is told how many attempts came before the one that failed.
-/

namespace GaleraOperator

variable {m : Type → Type} [Monad m] {ε α : Type}

/-- Make an attempt and up to `more` further ones while the failure is one to try `again` after. -/
def retryFrom (again : ε → Bool) (pause : Nat → m Unit) (attempt : m (Except ε α)) :
    (more past : Nat) → m (Except ε α)
  | 0, _ => attempt
  | more + 1, past => do
    match ← attempt with
    | .ok a => return .ok a
    | .error e =>
      if again e then
        pause past
        retryFrom again pause attempt more (past + 1)
      else return .error e

/-- Make at most `limit` attempts, and one if the limit is zero. -/
def retryWhile (again : ε → Bool) (limit : Nat) (pause : Nat → m Unit) (attempt : m (Except ε α)) :
    m (Except ε α) :=
  retryFrom again pause attempt (limit - 1) 0

end GaleraOperator
