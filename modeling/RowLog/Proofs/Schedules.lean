import RowLog.Proofs.Reductions
import Mathlib.Algebra.Order.Ring.Nat
import Mathlib.Logic.Relation

/-!
# Schedules of workers

However many workers there are and in whatever order they do their steps, they come to an end, and
then each stream has its outcome or has been skipped because of a failure. If no failure is to stop
the work, there is only one result, that of one worker, and in any case one worker does what
`reduce` does. Main statements: `Crew.wellFounded_step` and `Crew.accountsFor_and_isToldBy_of_run`.
-/

namespace RowLog

variable {ε α : Type} {work : StreamId → Except ε α} {failFast : Bool}

namespace Reduction

variable (done : Reduction ε α) (stream : StreamId) (outcome : Except ε α)

@[simp]
theorem hasFailure_pushOutcome :
    (done.pushOutcome stream outcome).hasFailure = (done.hasFailure || isFailure outcome) := by
  simp [hasFailure, pushOutcome]

@[simp]
theorem hasFailure_pushSkipped : (done.pushSkipped stream).hasFailure = done.hasFailure := rfl

theorem streams_pushOutcome_perm :
    (done.pushOutcome stream outcome).streams.Perm (stream :: done.streams) := by
  simp [streams, pushOutcome]

theorem streams_pushSkipped_perm :
    (done.pushSkipped stream).streams.Perm (stream :: done.streams) := by
  rw [streams, pushSkipped, ← List.append_assoc]
  exact List.perm_append_comm

end Reduction

namespace Worker

variable {board next : Board} {worker after : Worker ε α}

/-- The stream that a worker has taken and not yet accounted for. -/
def current? (worker : Worker ε α) : Option StreamId :=
  match worker.task with
  | .idle | .stopped => none
  | .taken stream | .started stream | .finished stream _ => some stream

/-- The streams that a worker has taken. -/
def streams (worker : Worker ε α) : List StreamId :=
  worker.current?.toList ++ worker.done.streams

/-- What holds of a worker at any time. -/
structure IsSound (work : StreamId → Except ε α) (failFast : Bool) (board : Board)
    (worker : Worker ε α) : Prop where
  outcome_eq : ∀ entry ∈ worker.done.outcomes, entry.2 = work entry.1
  finished_eq : ∀ stream outcome, worker.task = .finished stream outcome → outcome = work stream
  told : worker.done.hasFailure = true → board.failed = true
  skipped_cause : worker.done.skipped ≠ [] → failFast = true ∧ board.failed = true
  stopped : worker.task = .stopped → board.queue = []

namespace Step

theorem queue_eq_nil (step : Step work failFast board worker next after)
    (isEmpty : board.queue = []) : next.queue = [] := by
  cases step with
  | take => contradiction
  | stop => rfl
  | skip stops => exact isEmpty
  | start unknown => exact isEmpty
  | compact => exact isEmpty
  | tell => exact isEmpty

/-- The flag is set with the first failure of a worker, and it stays set. -/
theorem exists_fails (step : Step work failFast board worker next after) :
    ∃ fails, next.failed = (board.failed || fails) ∧
      after.done.hasFailure = (worker.done.hasFailure || fails) := by
  cases step with
  | take => exact ⟨false, by simp⟩
  | stop => exact ⟨false, by simp⟩
  | skip stops => exact ⟨false, by simp⟩
  | start unknown => exact ⟨false, by simp⟩
  | compact => exact ⟨false, by simp⟩
  | @tell _ _ _ outcome _ => exact ⟨isFailure outcome, by simp⟩

/-- No stream is lost, and none is taken twice. -/
theorem perm (step : Step work failFast board worker next after) :
    (next.queue ++ after.streams).Perm (board.queue ++ worker.streams) := by
  cases step with
  | take => exact List.perm_middle
  | stop => exact .refl _
  | skip stops => exact (Reduction.streams_pushSkipped_perm _ _).append_left _
  | start unknown => exact .refl _
  | compact => exact .refl _
  | tell => exact (Reduction.streams_pushOutcome_perm _ _ _).append_left _

theorem isSound (step : Step work failFast board worker next after)
    (sound : worker.IsSound work failFast board) : after.IsSound work failFast next := by
  cases step with
  | take => exact ⟨sound.outcome_eq, by simp, sound.told, sound.skipped_cause, by simp⟩
  | stop => exact ⟨sound.outcome_eq, by simp, sound.told, sound.skipped_cause, by simp⟩
  | skip stops => exact ⟨sound.outcome_eq, by simp, by simp, by simp [stops], by simp⟩
  | start unknown => exact ⟨sound.outcome_eq, by simp, sound.told, sound.skipped_cause, by simp⟩
  | compact => exact ⟨sound.outcome_eq, by simp, sound.told, sound.skipped_cause, by simp⟩
  | @tell queue failed stream outcome done =>
      have outcomeEq := sound.finished_eq stream outcome rfl
      refine ⟨?_, by simp, ?_, ?_, by simp⟩
      · intro entry entryMem
        rcases List.mem_append.mp entryMem with earlierMem | lastMem
        · exact sound.outcome_eq entry earlierMem
        · rw [List.mem_singleton.mp lastMem]
          exact outcomeEq
      · intro failure
        rw [Reduction.hasFailure_pushOutcome, Bool.or_eq_true] at failure
        rw [Bool.or_eq_true]
        exact failure.imp sound.told id
      · intro notEmpty
        rw [Bool.or_eq_true]
        exact (sound.skipped_cause notEmpty).imp id .inl

end Step

/-- What holds of a worker is not undone by the steps of the others. -/
theorem IsSound.mono (sound : worker.IsSound work failFast board)
    (queue : board.queue = [] → next.queue = [])
    (failed : board.failed = true → next.failed = true) :
    worker.IsSound work failFast next where
  outcome_eq := sound.outcome_eq
  finished_eq := sound.finished_eq
  told failure := failed (sound.told failure)
  skipped_cause notEmpty := (sound.skipped_cause notEmpty).imp id failed
  stopped isStopped := queue (sound.stopped isStopped)

theorem streams_of_stopped (isStopped : worker.task = .stopped) :
    worker.streams = worker.done.streams := by
  simp [streams, current?, isStopped]

end Worker

namespace Crew

variable {streams : List StreamId} {count : Nat} {crew next : Crew ε α}

/-- What holds of a crew at any time. -/
structure IsUnderway (work : StreamId → Except ε α) (failFast : Bool) (streams : List StreamId)
    (crew : Crew ε α) : Prop where
  manned : crew.workers ≠ []
  each_once : (crew.board.queue ++ crew.workers.flatMap Worker.streams).Perm streams
  sound : ∀ worker ∈ crew.workers, worker.IsSound work failFast crew.board
  failed_cause : crew.board.failed = true → ∃ worker ∈ crew.workers, worker.done.hasFailure = true

theorem isUnderway_start (someWorker : 0 < count) :
    (start count streams : Crew ε α).IsUnderway work failFast streams where
  manned := by simp [start, Nat.ne_of_gt someWorker]
  each_once := by
    have nothing : (start count streams : Crew ε α).workers.flatMap Worker.streams = [] := by
      rw [List.flatMap_eq_nil_iff]
      intro worker workerMem
      rw [List.eq_of_mem_replicate workerMem]
      rfl
    rw [nothing, List.append_nil]
    exact .refl streams
  sound := by
    intro worker workerMem
    rw [List.eq_of_mem_replicate workerMem]
    exact ⟨by simp [Reduction.empty], by simp, by simp [Reduction.hasFailure, Reduction.empty],
      by simp [Reduction.empty], by simp⟩
  failed_cause := by simp [start]

/-- The streams of one worker stand beside the queue, those of the others behind them. -/
theorem streams_perm (queue : List StreamId) (worker : Worker ε α)
    (before rest : List (Worker ε α)) :
    (queue ++ (before ++ worker :: rest).flatMap Worker.streams).Perm
      (queue ++ worker.streams ++ (before ++ rest).flatMap Worker.streams) := by
  rw [List.append_assoc, ← List.flatMap_cons]
  exact (List.perm_middle.flatMap_right _).append_left queue

theorem IsUnderway.of_step (underway : crew.IsUnderway work failFast streams)
    (step : Step work failFast crew next) : next.IsUnderway work failFast streams := by
  rcases underway with ⟨-, eachOnce, sound, failedCause⟩
  cases step with
  | @of board next worker after before rest step =>
      simp only [List.forall_mem_append, List.forall_mem_cons] at sound
      rcases sound with ⟨beforeSound, workerSound, restSound⟩
      rcases step.exists_fails with ⟨fails, failedEq, hasFailureEq⟩
      have kept {other : Worker ε α} (otherSound : other.IsSound work failFast board) :
          other.IsSound work failFast next :=
        otherSound.mono step.queue_eq_nil fun failed => by simp [failedEq, failed]
      refine ⟨by simp, ?_, ?_, ?_⟩
      · calc
          (next.queue ++ (before ++ after :: rest).flatMap Worker.streams).Perm
              (next.queue ++ after.streams ++ (before ++ rest).flatMap Worker.streams) :=
            streams_perm next.queue after before rest
          List.Perm _ (board.queue ++ worker.streams ++ (before ++ rest).flatMap Worker.streams) :=
            step.perm.append_right _
          List.Perm _ (board.queue ++ (before ++ worker :: rest).flatMap Worker.streams) :=
            (streams_perm board.queue worker before rest).symm
          List.Perm _ streams := eachOnce
      · simp only [List.forall_mem_append, List.forall_mem_cons]
        exact ⟨fun other otherMem => kept (beforeSound other otherMem), step.isSound workerSound,
          fun other otherMem => kept (restSound other otherMem)⟩
      · intro failed
        rw [failedEq, Bool.or_eq_true] at failed
        rcases failed with earlier | now
        · rcases failedCause earlier with ⟨other, otherMem, failure⟩
          rcases List.mem_append.mp otherMem with beforeMem | otherMem
          · exact ⟨other, by simp [beforeMem], failure⟩
          · rcases List.mem_cons.mp otherMem with same | restMem
            · exact ⟨after, by simp, by simp [hasFailureEq, ← same, failure]⟩
            · exact ⟨other, by simp [restMem], failure⟩
        · exact ⟨after, by simp, by simp [hasFailureEq, now]⟩

theorem IsUnderway.of_run (underway : crew.IsUnderway work failFast streams)
    (run : Relation.ReflTransGen (Step work failFast) crew next) :
    next.IsUnderway work failFast streams := by
  induction run with
  | refl => exact underway
  | tail run step ih => exact ih.of_step step

theorem IsUnderway.queue_eq_nil (underway : crew.IsUnderway work failFast streams)
    (isDone : crew.IsDone) : crew.board.queue = [] := by
  rcases List.exists_mem_of_ne_nil _ underway.manned with ⟨worker, workerMem⟩
  exact (underway.sound worker workerMem).stopped (isDone worker workerMem)

/-- When all workers have stopped, what they have done accounts for all streams. -/
theorem IsUnderway.accountsFor (underway : crew.IsUnderway work failFast streams)
    (isDone : crew.IsDone) (distinct : streams.Nodup) :
    crew.reduction.AccountsFor work failFast streams := by
  apply Reduction.accountsFor_sort distinct
  · have taken : crew.workers.flatMap Worker.streams =
        crew.workers.flatMap fun worker =>
          worker.done.outcomes.map Prod.fst ++ worker.done.skipped :=
      List.flatMap_congr fun worker workerMem =>
        Worker.streams_of_stopped (isDone worker workerMem)
    have eachOnce := underway.each_once
    rw [underway.queue_eq_nil isDone, List.nil_append, taken] at eachOnce
    rw [Reduction.streams, List.map_flatMap]
    exact (List.flatMap_append_perm _ _ _).trans eachOnce
  · intro entry entryMem
    rcases List.mem_flatMap.mp entryMem with ⟨worker, workerMem, entryMem⟩
    exact (underway.sound worker workerMem).outcome_eq entry entryMem
  · intro notEmpty
    rcases List.exists_mem_of_ne_nil _ notEmpty with ⟨stream, streamMem⟩
    rcases List.mem_flatMap.mp streamMem with ⟨worker, workerMem, streamMem⟩
    rcases (underway.sound worker workerMem).skipped_cause (List.ne_nil_of_mem streamMem) with
      ⟨stops, failed⟩
    rcases underway.failed_cause failed with ⟨failing, failingMem, failure⟩
    rw [Reduction.hasFailure_iff] at failure ⊢
    rcases failure with ⟨entry, entryMem, entryFailed⟩
    exact ⟨stops, entry, List.mem_flatMap.mpr ⟨failing, failingMem, entryMem⟩, entryFailed⟩

end Crew

/-- The most steps that a worker has before it, if it takes no further stream. -/
def Task.stepsLeft : Task ε α → Nat
  | .taken _ => 4
  | .started _ => 3
  | .finished _ _ => 2
  | .idle => 1
  | .stopped => 0

theorem Worker.Step.stepsLeft_lt {board next : Board} {worker after : Worker ε α}
    (step : Worker.Step work failFast board worker next after) :
    4 * next.queue.length + after.task.stepsLeft <
      4 * board.queue.length + worker.task.stepsLeft := by
  cases step with
  | take =>
      simp only [Task.stepsLeft, List.length_cons]
      omega
  | stop => simp [Task.stepsLeft]
  | skip stops => simp [Task.stepsLeft]
  | start unknown => simp [Task.stepsLeft]
  | compact => simp [Task.stepsLeft]
  | tell => simp [Task.stepsLeft]

/-- A worker that has not stopped can do a step, whatever the others do. -/
theorem Worker.IsSound.exists_step {board : Board} {worker : Worker ε α}
    (sound : worker.IsSound work failFast board) (goesOn : worker.task ≠ .stopped) :
    ∃ next after, Worker.Step work failFast board worker next after := by
  rcases board with ⟨queue, failed⟩
  rcases worker with ⟨task, done⟩
  cases task with
  | idle =>
      cases queue with
      | nil => exact ⟨_, _, .stop⟩
      | cons stream rest => exact ⟨_, _, .take⟩
  | taken stream =>
      cases stops : failFast && done.hasFailure with
      | false => exact ⟨_, _, .start fun isFailFast => by simpa [isFailFast] using stops⟩
      | true =>
          rw [Bool.and_eq_true] at stops
          have told : failed = true := sound.told stops.2
          rw [told]
          exact ⟨_, _, .skip stops.1⟩
  | started stream => exact ⟨_, _, .compact⟩
  | finished stream outcome => exact ⟨_, _, .tell⟩
  | stopped => contradiction

namespace Crew

variable {streams : List StreamId} {crew next : Crew ε α}

/-- The most steps that a crew has before it. -/
def stepsLeft (crew : Crew ε α) : Nat :=
  4 * crew.board.queue.length + (crew.workers.map fun worker => worker.task.stepsLeft).sum

theorem Step.stepsLeft_lt (step : Step work failFast crew next) :
    next.stepsLeft < crew.stepsLeft := by
  cases step with
  | of before rest step =>
      have less := step.stepsLeft_lt
      simp only [stepsLeft, List.map_append, List.map_cons, List.sum_append, List.sum_cons]
      omega

theorem IsUnderway.exists_step (underway : crew.IsUnderway work failFast streams)
    (goesOn : ¬crew.IsDone) : ∃ next, Step work failFast crew next := by
  simp only [IsDone, not_forall] at goesOn
  rcases goesOn with ⟨worker, workerMem, goesOn⟩
  rcases (underway.sound worker workerMem).exists_step goesOn with ⟨board, after, step⟩
  rcases crew with ⟨board, workers⟩
  rcases List.append_of_mem workerMem with ⟨before, rest, workersEq⟩
  simp only at workersEq
  subst workersEq
  exact ⟨_, .of before rest step⟩

/-- No schedule goes on for ever. -/
theorem wellFounded_step :
    WellFounded fun next crew : Crew ε α => Step work failFast crew next :=
  Subrelation.wf Step.stepsLeft_lt (measure stepsLeft).wf

/-- From everywhere the workers can go on to the end. -/
theorem IsUnderway.exists_done (underway : crew.IsUnderway work failFast streams) :
    ∃ final, Relation.ReflTransGen (Step work failFast) crew final ∧ final.IsDone := by
  have ends := @wellFounded_step _ _ work failFast
  induction crew using ends.induction with
  | _ crew ih =>
      by_cases isDone : crew.IsDone
      · exact ⟨crew, .refl, isDone⟩
      · rcases underway.exists_step isDone with ⟨next, step⟩
        rcases ih next step (underway.of_step step) with ⟨final, run, finalDone⟩
        exact ⟨final, .head step run, finalDone⟩

end Crew

/-! ### One worker -/

namespace Reduction

theorem append_empty (done : Reduction ε α) : done.append .empty = done := by
  simp [append, empty]

theorem append_addOutcome (done rest : Reduction ε α) (stream : StreamId)
    (outcome : Except ε α) :
    done.append (rest.addOutcome stream outcome) =
      (done.pushOutcome stream outcome).append rest := by
  simp [append, addOutcome, pushOutcome]

theorem append_addSkipped (done rest : Reduction ε α) (stream : StreamId) :
    done.append (rest.addSkipped stream) = (done.pushSkipped stream).append rest := by
  simp [append, addSkipped, pushSkipped]

end Reduction

/-- Whether a worker has decided to work on the stream that it has taken. -/
def Task.isStarted : Task ε α → Bool
  | .started _ | .finished _ _ => true
  | .idle | .taken _ | .stopped => false

/-- What is to become of all streams if a worker does the rest in order. -/
def Worker.expected (work : StreamId → Except ε α) (failFast : Bool) (queue : List StreamId)
    (worker : Worker ε α) : Reduction ε α :=
  worker.done.append (reduceFrom (m := Id) work failFast worker.done.hasFailure
    (worker.current?.toList ++ queue))

/-- What holds of the only worker of a crew at any time. -/
structure Worker.IsAlone (work : StreamId → Except ε α) (failFast : Bool) (board : Board)
    (worker : Worker ε α) : Prop where
  sound : worker.IsSound work failFast board
  failed_eq : board.failed = worker.done.hasFailure
  unknown : worker.task.isStarted = true → failFast = true → worker.done.hasFailure = false

namespace Worker.Step

variable {board next : Board} {worker after : Worker ε α}

theorem isAlone (step : Step work failFast board worker next after)
    (alone : worker.IsAlone work failFast board) : after.IsAlone work failFast next := by
  refine ⟨step.isSound alone.sound, ?_, ?_⟩
  · rcases step.exists_fails with ⟨fails, failedEq, hasFailureEq⟩
    rw [failedEq, hasFailureEq, alone.failed_eq]
  · cases step with
    | take => simp [Task.isStarted]
    | stop => simp [Task.isStarted]
    | skip stops => simp [Task.isStarted]
    | start unknown => exact fun _ => unknown
    | compact => exact fun _ => alone.unknown rfl
    | tell => simp [Task.isStarted]

/-- A step of the only worker is one of `reduceFrom`. -/
theorem expected_eq (step : Step work failFast board worker next after)
    (alone : worker.IsAlone work failFast board) :
    after.expected work failFast next.queue = worker.expected work failFast board.queue := by
  cases step with
  | take => rfl
  | stop => rfl
  | @skip queue stream done stops =>
      have failure : done.hasFailure = true := alone.failed_eq.symm
      calc
        (done.pushSkipped stream).append (reduceFrom (m := Id) work failFast done.hasFailure queue)
        _ = done.append (.addSkipped stream (reduceFrom (m := Id) work failFast done.hasFailure
              queue)) := (Reduction.append_addSkipped ..).symm
        _ = done.append (reduceFrom (m := Id) work failFast done.hasFailure (stream :: queue)) := by
          conv_rhs => rw [reduceFrom, if_pos (by simp [stops, failure])]
          rfl
  | start unknown => rfl
  | compact => rfl
  | @tell queue failed stream outcome done =>
      have outcomeEq : outcome = work stream := alone.sound.finished_eq stream outcome rfl
      have unknown : failFast = true → done.hasFailure = false := alone.unknown rfl
      calc
        (done.pushOutcome stream outcome).append (reduceFrom (m := Id) work failFast
            (done.pushOutcome stream outcome).hasFailure queue)
        _ = done.append (.addOutcome stream outcome (reduceFrom (m := Id) work failFast
              (done.hasFailure || isFailure outcome) queue)) := by
          rw [Reduction.append_addOutcome, Reduction.hasFailure_pushOutcome]
        _ = done.append (reduceFrom (m := Id) work failFast done.hasFailure (stream :: queue)) := by
          conv_rhs => rw [reduceFrom, if_neg (by simpa using unknown)]
          rw [outcomeEq]
          rfl

end Worker.Step

namespace Crew

variable {streams : List StreamId} {crew next : Crew ε α}

/-- What holds of a crew of one worker at any time: it does what `reduce` does. -/
def IsReduce (work : StreamId → Except ε α) (failFast : Bool) (streams : List StreamId)
    (crew : Crew ε α) : Prop :=
  ∃ worker, crew.workers = [worker] ∧ worker.IsAlone work failFast crew.board ∧
    worker.expected work failFast crew.board.queue = reduce (m := Id) work failFast streams

theorem isReduce_start : (start 1 streams : Crew ε α).IsReduce work failFast streams := by
  have underway : (start 1 streams : Crew ε α).IsUnderway work failFast streams :=
    isUnderway_start Nat.one_pos
  refine ⟨⟨.idle, .empty⟩, rfl, ⟨underway.sound _ (by simp [start]), rfl, by simp [Task.isStarted]⟩,
    rfl⟩

theorem IsReduce.of_step (isReduce : crew.IsReduce work failFast streams)
    (step : Step work failFast crew next) : next.IsReduce work failFast streams := by
  rcases isReduce with ⟨single, workersEq, alone, expectedEq⟩
  cases step with
  | @of board next worker after before rest step =>
      rcases List.append_eq_singleton_iff.mp workersEq with ⟨beforeEq, othersEq⟩ | ⟨-, othersEq⟩
      · rcases List.cons.inj othersEq with ⟨workerEq, restEq⟩
        rw [beforeEq, restEq]
        rw [← workerEq] at alone expectedEq
        exact ⟨after, rfl, step.isAlone alone, (step.expected_eq alone).trans expectedEq⟩
      · contradiction

theorem IsReduce.of_run (isReduce : crew.IsReduce work failFast streams)
    (run : Relation.ReflTransGen (Step work failFast) crew next) :
    next.IsReduce work failFast streams := by
  induction run with
  | refl => exact isReduce
  | tail run step ih => exact ih.of_step step

theorem IsReduce.reduction_eq (isReduce : crew.IsReduce work failFast streams)
    (isDone : crew.IsDone)
    (sorted : streams.Pairwise fun first second => first.compare second = .lt) :
    crew.reduction = reduce (m := Id) work failFast streams := by
  rcases isReduce with ⟨worker, workersEq, alone, expectedEq⟩
  have isStopped : worker.task = .stopped := isDone worker (by simp [workersEq])
  have nothingLeft : worker.expected work failFast crew.board.queue = worker.done := by
    rw [Worker.expected, Worker.current?, isStopped, alone.sound.stopped isStopped]
    exact Reduction.append_empty worker.done
  calc
    crew.reduction = worker.done.sort := by simp [reduction, workersEq]
    _ = (reduce (m := Id) work failFast streams).sort := by rw [← expectedEq, nothingLeft]
    _ = reduce (m := Id) work failFast streams := sort_reduce sorted

end Crew

namespace Partition

theorem sorted_streams (partition : Partition) :
    partition.streams.keys.Pairwise fun first second => first.compare second = .lt :=
  Std.ExtTreeMap.ordered_keys

theorem nodup_streams (partition : Partition) : partition.streams.keys.Nodup :=
  Std.ExtTreeMap.nodup_keys

end Partition

namespace Crew

/-- The workers of a configuration can come to an end from everywhere, and then each stream is
accounted for and the answer of the compaction tells of the failures, whichever steps have led
there. -/
theorem accountsFor_and_isToldBy_of_run {config : Config} (someWorker : 0 < config.workers)
    {work : StreamId → Except CompactionError StreamOutput} {partition : Partition}
    {crew : Crew CompactionError StreamOutput}
    (run : Relation.ReflTransGen (Step work config.failFast)
      (start config.workers partition.streams.keys) crew) :
    (∃ final, Relation.ReflTransGen (Step work config.failFast) crew final ∧ final.IsDone) ∧
      (crew.IsDone →
        crew.reduction.AccountsFor work config.failFast partition.streams.keys ∧
        (config.failFast = false → ∀ single,
          Relation.ReflTransGen (Step work config.failFast)
            (start 1 partition.streams.keys) single → single.IsDone →
          crew.reduction = single.reduction) ∧
        (config.workers = 1 →
          crew.reduction = reduce (m := Id) work config.failFast partition.streams.keys) ∧
        ∀ runId selection stats tree,
          let manifest := Manifest.ofReduction config runId selection stats crew.reduction
          (tree.write (Path.join config.outputDir manifestFileName)
            (Utf8.encodeChars manifest.chars)).2 = true →
          crew.reduction.IsToldBy manifest
            ((publish config manifest : ExceptT RunError (StateM FileTree) Manifest).run.run
              tree).1) := by
  have underway := (isUnderway_start someWorker).of_run run
  refine ⟨underway.exists_done, ?_⟩
  intro isDone
  have accounts := underway.accountsFor isDone partition.nodup_streams
  have alone {single : Crew CompactionError StreamOutput}
      (run : Relation.ReflTransGen (Step work config.failFast)
        (start 1 partition.streams.keys) single) (isDone : single.IsDone) :
      single.reduction = reduce (m := Id) work config.failFast partition.streams.keys :=
    (isReduce_start.of_run run).reduction_eq isDone partition.sorted_streams
  refine ⟨accounts, ?_, ?_, ?_⟩
  · intro keepsGoing single singleRun singleDone
    have nothing : crew.reduction.skipped = [] := by
      by_contra notEmpty
      have stops := (accounts.skipped_cause notEmpty).1
      rw [keepsGoing] at stops
      contradiction
    rw [alone singleRun singleDone, keepsGoing,
      accounts.eq_of_skipped_nil partition.sorted_streams nothing]
    exact (reduceFrom_of_keepsGoing false).symm
  · intro oneWorker
    rw [oneWorker] at run
    exact alone run isDone
  · intro runId selection stats tree manifest written
    rw [run_publish written]
    exact isToldBy_verdict accounts rfl

/-- Two workers have taken a stream each when the first of them fails; the second one looks at the
flag after that. -/
theorem accountsFor_and_isToldBy_of_run_of_late_look :
    let config : Config := { Config.default "work" with workers := 2 }
    let schema : StreamId := ⟨"s", none⟩
    let table : StreamId := ⟨"s", some "t"⟩
    let change : Record := .schemaChange ⟨1, "truncate s.t"⟩
    let partition := (Partition.empty.append 0 table change).append 0 schema change
    let failure : CompactionError := .log .inaccessible
    let work (_ : StreamId) : Except CompactionError StreamOutput := .error failure
    let crew : Crew CompactionError StreamOutput :=
      ⟨⟨[], true⟩,
        [⟨.stopped, ⟨[(schema, .error failure)], []⟩⟩, ⟨.stopped, ⟨[], [table]⟩⟩]⟩
    let manifest := Manifest.ofReduction config "run" ⟨[], []⟩ partition.stats crew.reduction
    0 < config.workers ∧
      Relation.ReflTransGen (Step work config.failFast)
        (start config.workers partition.streams.keys) crew ∧
      crew.IsDone ∧
      crew.reduction.AccountsFor work config.failFast partition.streams.keys ∧
      (FileTree.empty.write (Path.join config.outputDir manifestFileName)
        (Utf8.encodeChars manifest.chars)).2 = true ∧
      ((publish config manifest : ExceptT RunError (StateM FileTree) Manifest).run.run
        FileTree.empty).1 = .error (.stream schema failure) := by
  intro config schema table change partition failure work crew manifest
  have someWorker : 0 < config.workers := by decide
  have streamsEq : partition.streams.keys = [schema, table] := by decide +kernel
  have run : Relation.ReflTransGen (Step work config.failFast)
      (start config.workers partition.streams.keys) crew := by
    rw [streamsEq]
    have first {board next : Board} {worker after : Worker CompactionError StreamOutput}
        (other : Worker CompactionError StreamOutput)
        (step : Worker.Step work config.failFast board worker next after) :
        Step work config.failFast ⟨board, [worker, other]⟩ ⟨next, [after, other]⟩ :=
      .of [] [other] step
    have second {board next : Board} {worker after : Worker CompactionError StreamOutput}
        (other : Worker CompactionError StreamOutput)
        (step : Worker.Step work config.failFast board worker next after) :
        Step work config.failFast ⟨board, [other, worker]⟩ ⟨next, [other, after]⟩ :=
      .of [other] [] step
    exact .head (first _ .take) <| .head (second _ .take) <|
      .head (first _ (.start fun _ => rfl)) <| .head (first _ .compact) <|
      .head (first _ .tell) <| .head (second _ (.skip rfl)) <|
      .head (first _ .stop) <| .single (second _ .stop)
  have isDone : crew.IsDone := by simp [crew, IsDone]
  have written : (FileTree.empty.write (Path.join config.outputDir manifestFileName)
      (Utf8.encodeChars manifest.chars)).2 = true := by decide +kernel
  rcases (accountsFor_and_isToldBy_of_run someWorker run).2 isDone with
    ⟨accounts, -, -, told⟩
  have outcomesEq : crew.reduction.outcomes = [(schema, .error failure)] := by
    simp [crew, reduction, Reduction.sort]
  have isFirst : crew.reduction.IsFirstFailure schema failure := by
    rw [Reduction.IsFirstFailure, outcomesEq]
    refine ⟨List.mem_singleton_self _, ?_⟩
    intro entry entryMem _
    rw [List.mem_singleton.mp entryMem]
    decide
  exact ⟨someWorker, run, isDone, accounts, written,
    ((told "run" ⟨[], []⟩ partition.stats FileTree.empty written).first schema failure).mpr isFirst⟩

end Crew

end RowLog
