/-!
# Repeated attempts

Something that may fail for a while is tried again, up to a number of attempts. Main definition:
`retry`.
-/

namespace RowLog

/-- The outcome of the last attempt and the number of attempts made. `attempt` is told how many were
made before it; another one is made after a failure that is worth it, and after a pause, as long as
some are left. -/
def retryFrom {m : Type → Type} [Monad m] {ε α : Type} (retryable : ε → Bool) (pause : Nat → m Unit)
    (attempt : Nat → m (Except ε α)) (made : Nat) : (left : Nat) → m (Except ε α × Nat)
  | 0 => return (← attempt made, made + 1)
  | left + 1 => do
      match ← attempt made with
      | .ok value => return (.ok value, made + 1)
      | .error error =>
          if retryable error then
            pause made
            retryFrom retryable pause attempt (made + 1) left
          else return (.error error, made + 1)

/-- Makes attempts until one succeeds, one fails for good or all are made, but at least one. -/
def retry {m : Type → Type} [Monad m] {ε α : Type} (attempts : Nat) (retryable : ε → Bool)
    (pause : Nat → m Unit) (attempt : Nat → m (Except ε α)) : m (Except ε α × Nat) :=
  retryFrom retryable pause attempt 0 (attempts - 1)

end RowLog
