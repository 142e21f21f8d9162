import RowLog.Stream.Basic

/-!
# Work on all streams

The streams of a partition are compacted one by one; the outcome of each depends on that stream
only. Where a failure is to stop the work, the streams that have not been started by then are
skipped. Main definition: `reduce`.
-/

namespace RowLog

/-- What became of some streams. -/
structure Reduction (ε α : Type) where
  /-- The streams that were started, with their outcomes. -/
  outcomes : List (StreamId × Except ε α)
  /-- The streams that were not. -/
  skipped : List StreamId

namespace Reduction

variable {ε α : Type}

def empty : Reduction ε α := ⟨[], []⟩

def addOutcome (stream : StreamId) (outcome : Except ε α) (rest : Reduction ε α) : Reduction ε α :=
  { rest with outcomes := (stream, outcome) :: rest.outcomes }

def addSkipped (stream : StreamId) (rest : Reduction ε α) : Reduction ε α :=
  { rest with skipped := stream :: rest.skipped }

def results (reduction : Reduction ε α) : List α :=
  reduction.outcomes.filterMap fun (_, outcome) => outcome.toOption

/-- The streams that failed, with the errors. -/
def failures (reduction : Reduction ε α) : List (StreamId × ε) :=
  reduction.outcomes.filterMap fun (stream, outcome) =>
    match outcome with
    | .ok _ => none
    | .error error => some (stream, error)

end Reduction

def isFailure {ε α : Type} : Except ε α → Bool
  | .ok _ => false
  | .error _ => true

/-- Works on streams in order; `failed` says whether a stream before them has failed. -/
def reduceFrom {m : Type → Type} [Monad m] {ε α : Type} (work : StreamId → m (Except ε α))
    (failFast failed : Bool) : List StreamId → m (Reduction ε α)
  | [] => return .empty
  | stream :: rest =>
      if failFast && failed then
        return .addSkipped stream (← reduceFrom work failFast failed rest)
      else do
        let outcome ← work stream
        return .addOutcome stream outcome
          (← reduceFrom work failFast (failed || isFailure outcome) rest)

def reduce {m : Type → Type} [Monad m] {ε α : Type} (work : StreamId → m (Except ε α))
    (failFast : Bool) (streams : List StreamId) : m (Reduction ε α) :=
  reduceFrom work failFast false streams

end RowLog
