import RowLog.Proofs.Boundary
import RowLog.Proofs.PendingCounts

/-!
# What is counted while a stream is compacted

A compactor counts what it takes in and what it writes. Whatever steps it is taken through, and
whichever of them fail, its counts of what is written are those of the records that it has written.
As long as no step fails, every row event that was taken in is accounted for: it has been written,
or is pending, or was merged into another event, where two events that cancel are both gone. Main
statement: `Compactor.counts_runAll`.
-/

namespace RowLog

/-- How many events are gone after some transitions: one where it was merged into another event or
could not follow it, and two where they cancelled. -/
def Transition.countGone (transitions : List Transition) : Nat :=
  transitions.count .folded + transitions.count .replaced + transitions.count .invalid +
    2 * transitions.count .removed

theorem Transition.countGone_append (first second : List Transition) :
    countGone (first ++ second) = countGone first + countGone second := by
  simp only [countGone, List.count_append]
  omega

/-- After a single event is taken in, one more event is pending or gone. -/
theorem Pending.Accounts.size_of_taken {before after : Pending} {transition : Transition}
    (accounts : before.Accounts [.ok transition] [] after) :
    after.size + Transition.countGone [transition] = before.size + 1 := by
  have sizes := accounts.size_eq (by simp)
  cases transition <;> simp [Transition.countGone] at sizes ⊢ <;> omega

namespace Compactor

/-- A compactor after some steps, where a step that fails is followed by the next one. -/
def runAll (timeline : Timeline) (compactor : Compactor) (steps : List Step) : Compactor :=
  steps.foldl (fun compactor step => (compactor.runStep timeline step).1) compactor

/-- The transition by which a row event becomes pending, unless it fails. -/
def transition? (timeline : Timeline) (stamp : Timestamp) (compactor : Compactor)
    (event : RowEvent) : Option Transition := do
  let info ← (timeline.tableInfo ⟨event.schema, event.table⟩ stamp).toOption
  let net ← (NetEvent.ofRowEvent event info).toOption
  (compactor.pending.apply net).2.toOption

/-- The transitions by which row events become pending, up to the first that fails. -/
def eventTransitions (timeline : Timeline) (stamp : Timestamp) (compactor : Compactor) :
    List RowEvent → List Transition
  | [] => []
  | event :: rest =>
      match compactor.transition? timeline stamp event with
      | some transition =>
          transition ::
            (compactor.addEvent timeline stamp event).1.eventTransitions timeline stamp rest
      | none => []

def stepTransitions (timeline : Timeline) (compactor : Compactor) : Step → List Transition
  | .record (.rowBatch batch) =>
      compactor.countRecord.eventTransitions timeline batch.stamp batch.events
  | .record (.schemaChange _) | .endPass => []

/-- The transitions of all row events that are taken in during some steps. -/
def transitions (timeline : Timeline) (compactor : Compactor) : List Step → List Transition
  | [] => []
  | step :: rest =>
      compactor.stepTransitions timeline step ++
        (compactor.runStep timeline step).1.transitions timeline rest

/-- Whether a compactor has counted what it has written and the records that it was given. -/
structure IsCounted (compactor : Compactor) (given : Nat) : Prop where
  recordsIn_eq : compactor.stats.recordsIn = given
  recordsOut_eq : compactor.stats.recordsOut = compactor.written.length
  eventsOut_eq : compactor.stats.eventsOut = (compactor.written.flatMap Record.events).length
  schemaChanges_eq : compactor.stats.schemaChanges = compactor.written.countP Record.isChange

/-- Whether all row events that were taken in are accounted for, where these transitions led to what
is pending or written. -/
structure IsBalanced (compactor : Compactor) (transitions : List Transition) : Prop where
  wellPlaced : compactor.pending.WellPlaced
  eventsIn_eq : compactor.stats.eventsIn = compactor.stats.eventsOut + compactor.pending.size +
    Transition.countGone transitions

variable {timeline : Timeline} {stamp : Timestamp} {compactor next : Compactor} {given : Nat}
  {gone : List Transition}

/-! ### What is written -/

theorem isCounted_start : start.IsCounted 0 :=
  ⟨rfl, rfl, rfl, rfl⟩

namespace IsCounted

theorem writeBatch (counted : compactor.IsCounted given) (events : List NetEvent) :
    (compactor.writeBatch stamp events).IsCounted given where
  recordsIn_eq := counted.recordsIn_eq
  recordsOut_eq := by simp [Compactor.writeBatch, counted.recordsOut_eq]
  eventsOut_eq := by simp [Compactor.writeBatch, counted.eventsOut_eq, Record.events]
  schemaChanges_eq := by simp [Compactor.writeBatch, counted.schemaChanges_eq, Record.isChange]

theorem flush (counted : compactor.IsCounted given) (stamp : Timestamp) :
    (compactor.flush stamp).IsCounted given := by
  have drained : { compactor with pending := compactor.pending.drain.2 }.IsCounted given :=
    ⟨counted.1, counted.2, counted.3, counted.4⟩
  exact List.foldlRecOn (motive := fun middle : Compactor => middle.IsCounted given)
    (batches compactor.pending.drain.1) (Compactor.writeBatch stamp) drained
    fun middle middleCounted events _ => middleCounted.writeBatch events

theorem writeChange (counted : compactor.IsCounted given) (change : SchemaChange) :
    (compactor.writeChange change).IsCounted given where
  recordsIn_eq := counted.recordsIn_eq
  recordsOut_eq := by simp [Compactor.writeChange, counted.recordsOut_eq]
  eventsOut_eq := by simp [Compactor.writeChange, counted.eventsOut_eq, Record.events]
  schemaChanges_eq := by simp [Compactor.writeChange, counted.schemaChanges_eq, Record.isChange]

/-- Taking in a row event writes nothing, whether it succeeds or not. -/
theorem addEvent (counted : compactor.IsCounted given) (event : RowEvent) :
    (compactor.addEvent timeline stamp event).1.IsCounted given := by
  rcases counted with ⟨recordsIn, recordsOut, eventsOut, schemaChanges⟩
  simp only [Compactor.addEvent]
  split
  · exact ⟨recordsIn, recordsOut, eventsOut, schemaChanges⟩
  · split
    · exact ⟨recordsIn, recordsOut, eventsOut, schemaChanges⟩
    · split
      · exact ⟨recordsIn, recordsOut, eventsOut, schemaChanges⟩
      · exact ⟨recordsIn, recordsOut, eventsOut, schemaChanges⟩

theorem addEvents (counted : compactor.IsCounted given) (events : List RowEvent) :
    (compactor.addEvents timeline stamp events).1.IsCounted given := by
  induction events generalizing compactor with
  | nil => exact counted
  | cons event rest ih =>
      have first : (compactor.addEvent timeline stamp event).1.IsCounted given :=
        counted.addEvent event
      rw [Compactor.addEvents]
      split
      · next taken =>
          rw [taken] at first
          exact ih first
      · exact first

theorem addChange (counted : compactor.IsCounted given) (change : SchemaChange) :
    (compactor.addChange timeline change).1.IsCounted given := by
  have flushed := counted.flush (Timestamp.before change.stamp)
  simp only [Compactor.addChange]
  split
  · exact flushed
  · exact flushed.writeChange change

theorem advance (counted : compactor.IsCounted given) (stamp : Timestamp) :
    (compactor.advance stamp).IsCounted given :=
  ⟨counted.1, counted.2, counted.3, counted.4⟩

theorem countRecord (counted : compactor.IsCounted given) :
    compactor.countRecord.IsCounted (given + 1) :=
  ⟨congrArg (· + 1) counted.1, counted.2, counted.3, counted.4⟩

theorem apply (counted : compactor.IsCounted given) (record : Record) :
    (compactor.apply timeline record).1.IsCounted (given + 1) := by
  cases record with
  | schemaChange change =>
      have taken : (compactor.countRecord.addChange timeline change).1.IsCounted (given + 1) :=
        counted.countRecord.addChange change
      simp only [Compactor.apply]
      split
      · exact taken.advance _
      · exact taken
  | rowBatch batch =>
      have taken : (compactor.countRecord.addEvents timeline batch.stamp
          batch.events).1.IsCounted (given + 1) :=
        counted.countRecord.addEvents batch.events
      simp only [Compactor.apply]
      split
      · exact taken.advance _
      · exact taken

theorem endPass (counted : compactor.IsCounted given) : compactor.endPass.IsCounted given := by
  simp only [Compactor.endPass]
  split
  · exact counted.flush _
  · exact counted

theorem runStep (counted : compactor.IsCounted given) (step : Step) :
    (compactor.runStep timeline step).1.IsCounted (given + step.record?.toList.length) := by
  cases step with
  | record record => exact counted.apply record
  | endPass => exact counted.endPass

theorem runAll (counted : compactor.IsCounted given) (steps : List Step) :
    (compactor.runAll timeline steps).IsCounted
      (given + (steps.filterMap Step.record?).length) := by
  induction steps generalizing compactor given with
  | nil => exact counted
  | cons step rest ih =>
      have first : (compactor.runStep timeline step).1.IsCounted
          (given + step.record?.toList.length) :=
        counted.runStep step
      have later := ih first
      have total : (step :: rest).filterMap Step.record? =
          step.record?.toList ++ rest.filterMap Step.record? := by
        cases step <;> rfl
      rw [total, List.length_append, ← Nat.add_assoc]
      exact later

end IsCounted

/-! ### What becomes of the events -/

theorem stats_addEvent {event : RowEvent}
    (success : compactor.addEvent timeline stamp event = (next, .ok ())) :
    next.stats = { compactor.stats with eventsIn := compactor.stats.eventsIn + 1 } := by
  unfold addEvent at success
  split at success
  · simp at success
  · split at success
    · simp at success
    · split at success
      · simp at success
      · simp only [Prod.mk.injEq, and_true] at success
        rw [← success]

/-- The batches that are written hold all that was pending. -/
theorem stats_flush (compactor : Compactor) (stamp : Timestamp) :
    (compactor.flush stamp).stats.eventsIn = compactor.stats.eventsIn ∧
      (compactor.flush stamp).stats.eventsOut =
        compactor.stats.eventsOut + compactor.pending.size := by
  have each (middle : Compactor) (pieces : List (List NetEvent)) :
      (pieces.foldl (writeBatch stamp) middle).stats.eventsIn = middle.stats.eventsIn ∧
        (pieces.foldl (writeBatch stamp) middle).stats.eventsOut =
          middle.stats.eventsOut + pieces.flatten.length := by
    induction pieces generalizing middle with
    | nil => simp
    | cons piece rest ih =>
        rcases ih (middle.writeBatch stamp piece) with ⟨eventsIn, eventsOut⟩
        rw [List.foldl_cons, eventsIn, eventsOut]
        simp [writeBatch, Nat.add_assoc]
  have all := each { compactor with pending := compactor.pending.drain.2 }
    (batches compactor.pending.drain.1)
  rw [(isCut_batches compactor.pending.drain.1).flatten_eq] at all
  rw [← Pending.length_toList]
  exact all

theorem isBalanced_start : start.IsBalanced [] :=
  ⟨Pending.wellPlaced_empty, rfl⟩

namespace IsBalanced

/-- A row event that is taken in is one more, and its transition tells what is less. -/
theorem addEvent (balanced : compactor.IsBalanced gone) {event : RowEvent}
    (success : compactor.addEvent timeline stamp event = (next, .ok ())) :
    ∃ transition, compactor.transition? timeline stamp event = some transition ∧
      next.IsBalanced (gone ++ [transition]) := by
  rcases addEvent_eq_ok success with ⟨net, transition, ⟨info, infoEq, netEq⟩, applied, -, -⟩
  rcases Pending.exists_accounts_apply balanced.wellPlaced
    (NetEvent.proper_of_ofRowEvent netEq).notCancelled with
    ⟨pending, answer, appliedEq, wellPlaced, accounts⟩
  rw [applied, Prod.mk.injEq] at appliedEq
  rcases appliedEq with ⟨rfl, rfl⟩
  refine ⟨transition, ?_, wellPlaced, ?_⟩
  · simp [transition?, infoEq, netEq, applied, Except.toOption]
  have before := balanced.eventsIn_eq
  have sizes := accounts.size_of_taken
  rw [stats_addEvent success, Transition.countGone_append]
  change compactor.stats.eventsIn + 1 = compactor.stats.eventsOut + next.pending.size + _
  omega

theorem addEvents (balanced : compactor.IsBalanced gone) (events : List RowEvent)
    (success : compactor.addEvents timeline stamp events = (next, .ok ())) :
    next.IsBalanced (gone ++ compactor.eventTransitions timeline stamp events) := by
  induction events generalizing compactor gone with
  | nil =>
      simp only [Compactor.addEvents, Prod.mk.injEq, and_true] at success
      rwa [← success, eventTransitions, List.append_nil]
  | cons event rest ih =>
      rw [Compactor.addEvents] at success
      rcases firstEq : compactor.addEvent timeline stamp event with ⟨middle, _ | done⟩
      · simp [firstEq] at success
      · rw [firstEq] at success
        rcases balanced.addEvent firstEq with ⟨transition, answered, middleBalanced⟩
        have later := ih middleBalanced success
        rw [List.append_assoc, List.singleton_append] at later
        simpa only [eventTransitions, answered, firstEq] using later

theorem flush (balanced : compactor.IsBalanced gone) (stamp : Timestamp) :
    (compactor.flush stamp).IsBalanced gone where
  wellPlaced := by
    rw [pending_flush]
    exact Pending.wellPlaced_drain _
  eventsIn_eq := by
    have nothing : compactor.pending.drain.2.size = 0 := rfl
    rcases stats_flush compactor stamp with ⟨eventsIn, eventsOut⟩
    rw [eventsIn, eventsOut, pending_flush, nothing, balanced.eventsIn_eq]
    rfl

theorem endPass (balanced : compactor.IsBalanced gone) : compactor.endPass.IsBalanced gone := by
  simp only [Compactor.endPass]
  split
  · exact balanced.flush _
  · exact balanced

theorem apply (balanced : compactor.IsBalanced gone) {record : Record}
    (success : compactor.apply timeline record = (next, .ok ())) :
    next.IsBalanced (gone ++ compactor.stepTransitions timeline (.record record)) := by
  have counted : compactor.countRecord.IsBalanced gone := ⟨balanced.1, balanced.2⟩
  cases record with
  | schemaChange change =>
      cases checked : timeline.checkReplayed change.stamp with
      | error cause => simp [Compactor.apply, addChange, checked] at success
      | ok done =>
          simp only [Compactor.apply, addChange, checked, Prod.mk.injEq, and_true] at success
          have flushed := counted.flush (Timestamp.before change.stamp)
          rw [← success, stepTransitions, List.append_nil]
          exact ⟨flushed.1, flushed.2⟩
  | rowBatch batch =>
      rcases taken : compactor.countRecord.addEvents timeline batch.stamp batch.events with
        ⟨middle, _ | done⟩
      · simp [Compactor.apply, taken] at success
      · simp only [Compactor.apply, taken, Prod.mk.injEq, and_true] at success
        have added := counted.addEvents batch.events taken
        rw [← success]
        exact ⟨added.1, added.2⟩

theorem run (balanced : compactor.IsBalanced gone) (steps : List Step)
    (success : compactor.run timeline steps = (next, .ok ())) :
    next = compactor.runAll timeline steps ∧
      next.IsBalanced (gone ++ compactor.transitions timeline steps) := by
  induction steps generalizing compactor gone with
  | nil =>
      simp only [Compactor.run, Prod.mk.injEq, and_true] at success
      rw [← success, transitions, List.append_nil]
      exact ⟨rfl, balanced⟩
  | cons step rest ih =>
      rcases run_cons_eq_ok success with ⟨middle, stepEq, restSuccess⟩
      have stepBalanced : middle.IsBalanced (gone ++ compactor.stepTransitions timeline step) := by
        cases step with
        | record record => exact balanced.apply stepEq
        | endPass =>
            simp only [runStep, Prod.mk.injEq, and_true] at stepEq
            rw [← stepEq, stepTransitions, List.append_nil]
            exact balanced.endPass
      rcases ih stepBalanced restSuccess with ⟨same, later⟩
      rw [List.append_assoc] at later
      rw [runAll, List.foldl_cons, transitions, stepEq]
      exact ⟨same, later⟩

end IsBalanced

/-- After any steps, failed ones included, a compactor has counted the records that it was given,
and the records, row events and schema changes that it has written. If no step has failed, the row
events that were taken in are those that are written and those that are pending, one for each that
was merged into another event or could not follow it, and two for each two that cancelled. -/
theorem counts_runAll (timeline : Timeline) (steps : List Step) :
    let final := start.runAll timeline steps
    let transitions := start.transitions timeline steps
    final.stats.recordsIn = (steps.filterMap Step.record?).length ∧
      final.stats.recordsOut = final.written.length ∧
      final.stats.eventsOut = (final.written.flatMap Record.events).length ∧
      final.stats.schemaChanges = final.written.countP Record.isChange ∧
      ((start.run timeline steps).2 = .ok () →
        final.stats.eventsIn = final.stats.eventsOut + final.pending.size +
          transitions.count .folded + transitions.count .replaced + transitions.count .invalid +
          2 * transitions.count .removed) := by
  intro final transitions
  have counted : final.IsCounted (0 + (steps.filterMap Step.record?).length) :=
    isCounted_start.runAll steps
  rw [Nat.zero_add] at counted
  refine ⟨counted.1, counted.2, counted.3, counted.4, fun succeeds => ?_⟩
  rcases isBalanced_start.run steps (Prod.ext rfl succeeds) with ⟨same, balanced⟩
  have total := balanced.eventsIn_eq
  rw [same, List.nil_append, Transition.countGone] at total
  simp only [final, transitions]
  omega

/-- Every kind of transition, a pass that ends in between, and an event that is still pending. -/
theorem counts_runAll_of_every_transition :
    let info : TableInfo := ⟨["id"], some ⟨"PRIMARY", ["id"]⟩, []⟩
    let timeline : Timeline :=
      ⟨.empty, (∅ : Std.ExtTreeMap _ _ Schema.QualifiedName.compare).insert ⟨"shop", "orders"⟩
        [⟨0, some info⟩], ∅⟩
    let event (kind : EventKind) (id : Int64) : RowEvent :=
      ⟨"shop", "orders", kind, [Column.encode ⟨"id", .long, .int id, none⟩]⟩
    let steps : List Step :=
      [.record (.rowBatch
          ⟨5, [event .insert 1, event .update 1, event .insert 1, event .delete 2]⟩),
        .record (.rowBatch ⟨6, [event .insert 2, event .delete 1]⟩), .endPass,
        .record (.schemaChange ⟨7, "ALTER TABLE orders ADD note TEXT"⟩),
        .record (.rowBatch ⟨8, [event .delete 2]⟩)]
    let final := start.runAll timeline steps
    (start.run timeline steps).2 = .ok () ∧ final.written.length = 2 ∧
      final.stats.eventsIn = final.stats.eventsOut + final.pending.size + 5 := by
  intro info timeline event steps final
  have succeeds : (start.run timeline steps).2 = .ok () := by
    decide +kernel
  have transitions : start.transitions timeline steps =
      [.added, .folded, .invalid, .added, .replaced, .removed, .added] := by
    decide +kernel
  rcases counts_runAll timeline steps with ⟨-, recordsOut, -, -, balance⟩
  have total := balance succeeds
  rw [transitions] at total
  refine ⟨succeeds, ?_, total⟩
  rw [← recordsOut]
  decide +kernel

end Compactor

end RowLog
