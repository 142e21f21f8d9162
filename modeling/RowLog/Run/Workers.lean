import RowLog.Run.Reduction

/-!
# Workers

Several workers share the queue of the streams. Each of them takes the next stream, looks whether a
failure is known that is to stop the work, and works on the stream or skips it; between any two of
these steps the others may do some of theirs. When all workers have stopped, what they have done is
put together in the order of the streams. Main definitions: `Crew.Step` and `Crew.reduction`.
-/

namespace RowLog

/-- What a worker is at. -/
inductive Task (ε α : Type)
  | idle
  | taken (stream : StreamId)
  | started (stream : StreamId)
  | finished (stream : StreamId) (outcome : Except ε α)
  | stopped

/-- A worker with what has become of the streams that it is done with, in the order in which it has
taken them. -/
structure Worker (ε α : Type) where
  task : Task ε α
  done : Reduction ε α

/-- What the workers share. -/
structure Board where
  queue : List StreamId
  /-- Whether a worker has told of a failure. -/
  failed : Bool

/-- Workers with what they share. -/
structure Crew (ε α : Type) where
  board : Board
  workers : List (Worker ε α)

namespace Reduction

variable {ε α : Type}

/-- The streams that are accounted for. -/
def streams (reduction : Reduction ε α) : List StreamId :=
  reduction.outcomes.map Prod.fst ++ reduction.skipped

def hasFailure (reduction : Reduction ε α) : Bool :=
  reduction.outcomes.any fun entry => isFailure entry.2

def pushOutcome (reduction : Reduction ε α) (stream : StreamId) (outcome : Except ε α) :
    Reduction ε α :=
  { reduction with outcomes := reduction.outcomes ++ [(stream, outcome)] }

def pushSkipped (reduction : Reduction ε α) (stream : StreamId) : Reduction ε α :=
  { reduction with skipped := reduction.skipped ++ [stream] }

def append (first second : Reduction ε α) : Reduction ε α :=
  ⟨first.outcomes ++ second.outcomes, first.skipped ++ second.skipped⟩

/-- The same outcomes and skipped streams, each in the order of the streams. -/
def sort (reduction : Reduction ε α) : Reduction ε α :=
  ⟨reduction.outcomes.mergeSort fun first second => (first.1.compare second.1).isLE,
    reduction.skipped.mergeSort fun first second => (first.compare second).isLE⟩

end Reduction

section

variable {ε α : Type} (work : StreamId → Except ε α) (failFast : Bool)

/-- One step of a worker. The flag is read without waiting for the others, so a worker may start on
a stream although another one has told of a failure by then; of its own failures it knows. -/
inductive Worker.Step : Board → Worker ε α → Board → Worker ε α → Prop
  | take {stream : StreamId} {rest : List StreamId} {failed : Bool} {done : Reduction ε α} :
      Step ⟨stream :: rest, failed⟩ ⟨.idle, done⟩ ⟨rest, failed⟩ ⟨.taken stream, done⟩
  | stop {failed : Bool} {done : Reduction ε α} :
      Step ⟨[], failed⟩ ⟨.idle, done⟩ ⟨[], failed⟩ ⟨.stopped, done⟩
  | skip {queue : List StreamId} {stream : StreamId} {done : Reduction ε α}
      (stops : failFast = true) :
      Step ⟨queue, true⟩ ⟨.taken stream, done⟩ ⟨queue, true⟩ ⟨.idle, done.pushSkipped stream⟩
  | start {board : Board} {stream : StreamId} {done : Reduction ε α}
      (unknown : failFast = true → done.hasFailure = false) :
      Step board ⟨.taken stream, done⟩ board ⟨.started stream, done⟩
  | compact {board : Board} {stream : StreamId} {done : Reduction ε α} :
      Step board ⟨.started stream, done⟩ board ⟨.finished stream (work stream), done⟩
  | tell {queue : List StreamId} {failed : Bool} {stream : StreamId} {outcome : Except ε α}
      {done : Reduction ε α} :
      Step ⟨queue, failed⟩ ⟨.finished stream outcome, done⟩ ⟨queue, failed || isFailure outcome⟩
        ⟨.idle, done.pushOutcome stream outcome⟩

/-- One step of one of the workers. -/
inductive Crew.Step : Crew ε α → Crew ε α → Prop
  | of {board next : Board} {worker after : Worker ε α} (before rest : List (Worker ε α))
      (step : Worker.Step work failFast board worker next after) :
      Step ⟨board, before ++ worker :: rest⟩ ⟨next, before ++ after :: rest⟩

end

namespace Crew

variable {ε α : Type}

/-- Some workers before their first steps. -/
def start (count : Nat) (streams : List StreamId) : Crew ε α :=
  ⟨⟨streams, false⟩, List.replicate count ⟨.idle, .empty⟩⟩

def IsDone (crew : Crew ε α) : Prop :=
  ∀ worker ∈ crew.workers, worker.task = .stopped

/-- What the workers have done, put together worker by worker and then sorted. -/
def reduction (crew : Crew ε α) : Reduction ε α :=
  Reduction.sort
    ⟨crew.workers.flatMap fun worker => worker.done.outcomes,
      crew.workers.flatMap fun worker => worker.done.skipped⟩

end Crew

end RowLog
