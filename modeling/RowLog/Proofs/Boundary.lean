import RowLog.Proofs.Lists
import RowLog.Proofs.Segments

/-!
# Schema changes as boundaries of a stream

In a stream that is in order, a schema change divides what is written: every row batch comes either
from row events before the change, and then it is stamped before the change, or from row events
after it, and then it is not. The compaction may stop at a failure; what it has written by then is
divided in the same way. A time at which nothing happens divides a stream too, if the stream ends
before it. Main statement: `Compactor.onOneSide_of_mem_compact`.
-/

namespace RowLog

/-! ### Times -/

instance : Std.LawfulOrderMax Timestamp where
  max_le_iff first second bound := by
    change (if first ≤ second then second else first) ≤ bound ↔ _
    split
    next ordered => exact ⟨fun le => ⟨Int64.le_trans ordered le, le⟩, And.right⟩
    next ordered =>
      have reversed := Int64.le_of_lt (Int64.not_le.mp ordered)
      exact ⟨fun le => ⟨le, Int64.le_trans reversed le⟩, And.left⟩
  max_eq_or first second := by
    change (if first ≤ second then second else first) = first ∨
      (if first ≤ second then second else first) = second
    split <;> simp

theorem latestOf_eq_some_iff {records : List Record} {stamp : Timestamp} :
    latestOf records = some stamp ↔
      (∃ record ∈ records, record.stamp = stamp) ∧ ∀ record ∈ records, record.stamp ≤ stamp := by
  simp [latestOf, List.max?_eq_some_iff]

/-- Where a time is not the least one, the time before it is one less. -/
theorem Timestamp.toInt_before {earlier stamp : Timestamp} (lt : earlier < stamp) :
    (Timestamp.before stamp).toInt = stamp.toInt - 1 := by
  have lower := Int64.minValue_le_toInt earlier
  have upper := Int64.toInt_lt stamp
  rw [Int64.lt_iff_toInt_lt] at lt
  rw [Int64.toInt_minValue] at lower
  rw [Timestamp.before_eq_ofInt, Int64.toInt_minValue, Int.max_eq_left (by omega)]
  exact Int64.toInt_ofInt_of_le (by omega) (by omega)

theorem Timestamp.before_lt {earlier stamp : Timestamp} (lt : earlier < stamp) :
    Timestamp.before stamp < stamp := by
  rw [Int64.lt_iff_toInt_lt, Timestamp.toInt_before lt]
  omega

theorem Timestamp.le_before {earlier stamp : Timestamp} (lt : earlier < stamp) :
    earlier ≤ Timestamp.before stamp := by
  rw [Int64.le_iff_toInt_le, Timestamp.toInt_before lt]
  rw [Int64.lt_iff_toInt_lt] at lt
  omega

def Step.record? : Step → Option Record
  | .record taken => some taken
  | .endPass => none

/-! ### Streams in order -/

/-- Whether one record may come before another: it is from an earlier time, or both are parts of one
schema change. -/
def Record.Precedes (first second : Record) : Prop :=
  first.stamp < second.stamp ∨
    first.stamp = second.stamp ∧ first.isChange = true ∧ second.isChange = true

theorem Record.Precedes.le {first second : Record} (precedes : first.Precedes second) :
    first.stamp ≤ second.stamp := by
  rcases precedes with earlier | ⟨same, -, -⟩
  · exact Int64.le_of_lt earlier
  · exact Int64.le_of_eq same

def IsChangedAt (records : List Record) (time : Timestamp) : Prop :=
  ∃ change, .schemaChange change ∈ records ∧ change.stamp = time

/-- Whether a time divides a stream: there is a schema change at that time, or nothing comes after
it. -/
def Divides (time : Timestamp) (records : List Record) : Prop :=
  IsChangedAt records time ∨ ∀ record ∈ records, record.stamp < time

/-- The row events of records, each with the time of its commit. -/
def eventsOf (records : List Record) : List (Timestamp × RowEvent) :=
  records.flatMap fun record => record.events.map fun event => (record.stamp, event)

/-- Whether events are among those that given row events come to, taken by themselves. -/
def IsNetOf (timeline : Timeline) (source : List (Timestamp × RowEvent))
    (events : List RowEvent) : Prop :=
  ∃ nets pending,
    List.Forall₂ (fun event net => KeyedAs timeline event.1 event.2 net) source nets ∧
      Pending.empty.applyAll nets = .ok pending ∧
      ∀ event ∈ events, event ∈ pending.drain.1.map NetEvent.toRowEvent

/-- Whether a row batch that is written for a stream comes from row events that follow each other
there and lie on one side of a time, and the batch is stamped accordingly. -/
def RowBatch.OnOneSide (timeline : Timeline) (records : List Record) (time : Timestamp)
    (batch : RowBatch) : Prop :=
  ∃ source, source <:+: eventsOf records ∧ IsNetOf timeline source batch.events ∧
    (batch.stamp < time ∧ (∀ event ∈ source, event.1 < time) ∨
      time ≤ batch.stamp ∧ ∀ event ∈ source, time ≤ event.1)

theorem eventsOf_append (first second : List Record) :
    eventsOf (first ++ second) = eventsOf first ++ eventsOf second := by
  simp [eventsOf]

theorem eventsOf_rowBatches (batches : List RowBatch) (stamp : Option Timestamp)
    (change : Option SchemaChange) :
    eventsOf (batches.map Record.rowBatch) = Segment.events ⟨batches, stamp, change⟩ := by
  simp only [eventsOf, Segment.events, List.flatMap_map]
  rfl

theorem mem_eventsOf_rowBatches {batches : List RowBatch} {event : Timestamp × RowEvent}
    (eventMem : event ∈ eventsOf (batches.map Record.rowBatch)) :
    ∃ batch ∈ batches, batch.stamp = event.1 := by
  simp only [eventsOf, List.mem_flatMap, List.mem_map] at eventMem
  rcases eventMem with ⟨_, ⟨batch, batchMem, rfl⟩, _, _, rfl⟩
  exact ⟨batch, batchMem, rfl⟩

/-- A row batch that is written for a segment is stamped as the segment is, and comes from its
events, of which there are some. -/
theorem Segment.Writes.rowBatch {timeline : Timeline} {segment : Segment} {records : List Record}
    (writes : segment.Writes timeline records) {batch : RowBatch}
    (batchMem : .rowBatch batch ∈ records) :
    segment.stamp = some batch.stamp ∧ segment.batches ≠ [] ∧
      IsNetOf timeline segment.events batch.events := by
  rcases writes with ⟨nets, pending, pieces, rows, keyed, folded, cut, written, rfl⟩
  have batchRow : .rowBatch batch ∈ rows := by
    rcases List.mem_append.mp batchMem with inRows | inChange
    · exact inRows
    · simp at inChange
  rcases exists_mem_of_forall₂ written batchRow with ⟨piece, pieceMem, stamp, stampEq, rowEq⟩
  rw [Record.rowBatch.injEq] at rowEq
  subst rowEq
  have pieceEvents : ∀ net ∈ piece, net ∈ pending.drain.1 := by
    intro net netMem
    rw [← cut.flatten_eq]
    exact List.mem_flatten_of_mem pieceMem netMem
  refine ⟨stampEq, ?_, nets, pending, keyed, folded, ?_⟩
  · intro noBatches
    have noNets : nets = [] := by simpa [Segment.events, noBatches] using keyed
    have pendingEq : pending = .empty := by simpa [noNets, Pending.applyAll, eq_comm] using folded
    rcases List.exists_mem_of_length_pos (cut.bounded piece pieceMem).1 with ⟨net, netMem⟩
    have drained := pieceEvents net netMem
    rw [pendingEq, Pending.fst_drain_empty] at drained
    contradiction
  · intro event eventMem
    rcases List.mem_map.mp eventMem with ⟨net, netMem, rfl⟩
    exact List.mem_map_of_mem (pieceEvents net netMem)

section Sides

variable {timeline : Timeline} {applied rest : List Record} {batches : List RowBatch}
  {time : Timestamp} {latest : Option Timestamp}

theorem rowBatch_mem_of_isSuffix (since : batches.map Record.rowBatch <:+ applied)
    {batch : RowBatch} (batchMem : batch ∈ batches) : .rowBatch batch ∈ applied :=
  since.subset (List.mem_map_of_mem batchMem)

theorem stamp_lt_of_not_isChangedAt (ordered : (applied ++ rest).Pairwise Record.Precedes)
    (divides : Divides time (applied ++ rest)) (notChanged : ¬IsChangedAt applied time) :
    ∀ record ∈ applied, record.stamp < time := by
  intro record recordMem
  rcases divides with ⟨change, changeMem, rfl⟩ | early
  · rcases List.mem_append.mp changeMem with inApplied | inRest
    · exact absurd ⟨change, inApplied, rfl⟩ notChanged
    · rcases (List.pairwise_append.mp ordered).2.2 record recordMem _ inRest with
        earlier | ⟨same, isChange, -⟩
      · exact earlier
      · cases record with
        | schemaChange other => exact absurd ⟨other, recordMem, same⟩ notChanged
        | rowBatch batch => contradiction
  · exact early record (by simp [recordMem])

/-- After a schema change, the row batches that have yet to be written are from after its time. -/
theorem lt_stamp_of_isChangedAt (ordered : (applied ++ rest).Pairwise Record.Precedes)
    (since : batches.map Record.rowBatch <:+ applied)
    (changed : IsChangedAt applied time) : ∀ batch ∈ batches, time < batch.stamp := by
  intro batch batchMem
  rcases since with ⟨before, rfl⟩
  have appliedOrdered := (List.pairwise_append.mp ordered).1
  rcases changed with ⟨change, changeMem, rfl⟩
  rcases List.mem_append.mp changeMem with inBefore | inBatches
  · rcases (List.pairwise_append.mp appliedOrdered).2.2 _ inBefore _
        (List.mem_map_of_mem batchMem) with earlier | ⟨-, -, isChange⟩
    · exact earlier
    · contradiction
  · simp at inBatches

theorem onOneSide_of_writes {records : List Record} {change : Option SchemaChange}
    (position : batches.map Record.rowBatch <:+: records)
    {rows : List Record} (writes : Segment.Writes timeline ⟨batches, latest, change⟩ rows)
    (side : ∀ stamp, latest = some stamp → batches ≠ [] →
      (stamp < time ∧ ∀ batch ∈ batches, batch.stamp < time) ∨
        (time ≤ stamp ∧ ∀ batch ∈ batches, time ≤ batch.stamp))
    {batch : RowBatch} (batchMem : .rowBatch batch ∈ rows) :
    batch.OnOneSide timeline records time := by
  rcases writes.rowBatch batchMem with ⟨stampEq, notEmpty, net⟩
  rw [← eventsOf_rowBatches] at net
  refine ⟨_, ?_, net, ?_⟩
  · rcases position with ⟨before, after, rfl⟩
    rw [eventsOf_append, eventsOf_append]
    exact ⟨_, _, rfl⟩
  · rcases side _ stampEq notEmpty with ⟨early, allEarly⟩ | ⟨late, allLate⟩
    · left
      refine ⟨early, fun event eventMem => ?_⟩
      rcases mem_eventsOf_rowBatches eventMem with ⟨source, sourceMem, same⟩
      rw [← same]
      exact allEarly source sourceMem
    · right
      refine ⟨late, fun event eventMem => ?_⟩
      rcases mem_eventsOf_rowBatches eventMem with ⟨source, sourceMem, same⟩
      rw [← same]
      exact allLate source sourceMem

end Sides

namespace Compactor

variable {timeline : Timeline} {compactor next : Compactor} {applied records : List Record}
  {batches : List RowBatch} {time : Timestamp}

/-- What holds of a compactor on its way through a stream that a time divides: all row batches that
are written lie on one side of it, and those that have yet to be written follow each other. -/
structure IsDivided (compactor : Compactor) (timeline : Timeline) (time : Timestamp)
    (records applied : List Record) (batches : List RowBatch) : Prop where
  isAt : compactor.IsAt timeline applied batches
  since : batches.map Record.rowBatch <:+ applied
  written : ∀ batch, .rowBatch batch ∈ compactor.written → batch.OnOneSide timeline records time

theorem isDivided_start : start.IsDivided timeline time records [] [] where
  isAt := isAt_start
  since := List.nil_suffix
  written batch batchMem := by simp [start] at batchMem

theorem written_addEvents (timeline : Timeline) (compactor : Compactor) (stamp : Timestamp)
    (events : List RowEvent) :
    (compactor.addEvents timeline stamp events).1.written = compactor.written := by
  induction events generalizing compactor with
  | nil => rfl
  | cons event rest ih =>
      have first : (compactor.addEvent timeline stamp event).1.written = compactor.written := by
        simp only [addEvent]
        split
        · rfl
        · split
          · rfl
          · split <;> rfl
      simp only [addEvents]
      split
      next next added =>
        rw [added] at first
        exact (ih next).trans first
      next => exact first

theorem written_apply_rowBatch (batch : RowBatch) :
    (compactor.apply timeline (.rowBatch batch)).1.written = compactor.written := by
  have added := written_addEvents timeline compactor.countRecord batch.stamp batch.events
  simp only [apply]
  generalize compactor.countRecord.addEvents timeline batch.stamp batch.events = taken at added ⊢
  rcases taken with ⟨next, _ | done⟩
  · exact added
  · exact added

/-- A schema change that cannot be taken in is not written, but what is pending is. -/
theorem written_apply_schemaChange (timeline : Timeline) (compactor : Compactor)
    (change : SchemaChange) :
    ∃ changes : List SchemaChange, (compactor.apply timeline (.schemaChange change)).1.written =
      (compactor.countRecord.flush (Timestamp.before change.stamp)).written ++
        changes.map Record.schemaChange := by
  simp only [apply, addChange]
  cases timeline.checkReplayed change.stamp with
  | error cause => exact ⟨[], (List.append_nil _).symm⟩
  | ok done => exact ⟨[change], rfl⟩

section Stream

variable {rest : List Record}

/-- At the end of a pass, all that is pending lies on one side. -/
theorem side_of_latestOf (ordered : (applied ++ rest).Pairwise Record.Precedes)
    (divides : Divides time (applied ++ rest))
    (since : batches.map Record.rowBatch <:+ applied) {stamp : Timestamp}
    (latest : latestOf applied = some stamp) (notEmpty : batches ≠ []) :
    (stamp < time ∧ ∀ batch ∈ batches, batch.stamp < time) ∨
      (time ≤ stamp ∧ ∀ batch ∈ batches, time ≤ batch.stamp) := by
  rcases latestOf_eq_some_iff.mp latest with ⟨⟨last, lastMem, lastEq⟩, greatest⟩
  by_cases changed : IsChangedAt applied time
  · -- Something is pending, and as it is from after the change, so is the latest time.
    right
    have late := lt_stamp_of_isChangedAt ordered since changed
    rcases List.exists_mem_of_ne_nil batches notEmpty with ⟨first, firstMem⟩
    have lower : time ≤ first.stamp := Int64.le_of_lt (late first firstMem)
    have upper : first.stamp ≤ stamp :=
      greatest (.rowBatch first) (rowBatch_mem_of_isSuffix since firstMem)
    exact ⟨Int64.le_trans lower upper, fun batch batchMem => Int64.le_of_lt (late batch batchMem)⟩
  · left
    have early := stamp_lt_of_not_isChangedAt ordered divides changed
    rw [← lastEq]
    exact ⟨early last lastMem,
      fun batch batchMem => early (.rowBatch batch) (rowBatch_mem_of_isSuffix since batchMem)⟩

/-- Before a schema change, all that is pending lies on one side. -/
theorem side_of_before {change : SchemaChange}
    (ordered : (applied ++ .schemaChange change :: rest).Pairwise Record.Precedes)
    (divides : Divides time (applied ++ .schemaChange change :: rest))
    (since : batches.map Record.rowBatch <:+ applied) (notEmpty : batches ≠ []) :
    (Timestamp.before change.stamp < time ∧ ∀ batch ∈ batches, batch.stamp < time) ∨
      (time ≤ Timestamp.before change.stamp ∧ ∀ batch ∈ batches, time ≤ batch.stamp) := by
  rcases List.exists_mem_of_ne_nil batches notEmpty with ⟨first, firstMem⟩
  have beforeChange : first.stamp < change.stamp := by
    rcases (List.pairwise_append.mp ordered).2.2 _ (rowBatch_mem_of_isSuffix since firstMem)
        (.schemaChange change) (by simp) with earlier | ⟨-, notChange, -⟩
    · exact earlier
    · contradiction
  by_cases changed : IsChangedAt applied time
  · right
    have late := lt_stamp_of_isChangedAt ordered since changed
    have lower : time ≤ first.stamp := Int64.le_of_lt (late first firstMem)
    have upper := Timestamp.le_before beforeChange
    exact ⟨Int64.le_trans lower upper, fun batch batchMem => Int64.le_of_lt (late batch batchMem)⟩
  · left
    have early := stamp_lt_of_not_isChangedAt ordered divides changed
    -- The change of the time has yet to come: it is this one or a later one.
    have reached : change.stamp ≤ time := by
      rcases divides with ⟨other, otherMem, rfl⟩ | allEarly
      · rcases List.mem_append.mp otherMem with inApplied | inRest
        · exact absurd ⟨other, inApplied, rfl⟩ changed
        · rcases List.mem_cons.mp inRest with same | later
          · rw [Record.schemaChange.injEq] at same
            exact Int64.le_of_eq (congrArg SchemaChange.stamp same.symm)
          · have restOrdered := (List.pairwise_append.mp ordered).2.1
            exact ((List.pairwise_cons.mp restOrdered).1 _ later).le
      · exact Int64.le_of_lt (allEarly (.schemaChange change) (by simp))
    exact ⟨Int64.lt_of_lt_of_le (Timestamp.before_lt beforeChange) reached,
      fun batch batchMem => early (.rowBatch batch) (rowBatch_mem_of_isSuffix since batchMem)⟩

theorem IsDivided.endPass
    (divided : compactor.IsDivided timeline time (applied ++ rest) applied batches)
    (ordered : (applied ++ rest).Pairwise Record.Precedes)
    (divides : Divides time (applied ++ rest)) :
    compactor.endPass.IsDivided timeline time (applied ++ rest) applied [] := by
  rcases divided.isAt.endPass with ⟨rows, written, later, writes⟩
  have position : batches.map Record.rowBatch <:+: applied ++ rest :=
    divided.since.isInfix.trans (List.prefix_append applied rest).isInfix
  refine ⟨later, List.nil_suffix, ?_⟩
  intro batch batchMem
  rw [written] at batchMem
  rcases List.mem_append.mp batchMem with earlier | inRows
  · exact divided.written batch earlier
  · exact onOneSide_of_writes position writes
      (fun stamp latest => side_of_latestOf ordered divides divided.since latest) inRows

/-- A record that cannot be taken in leaves what is written divided, too. -/
theorem IsDivided.apply {record : Record}
    (divided : compactor.IsDivided timeline time (applied ++ record :: rest) applied batches)
    (ordered : (applied ++ record :: rest).Pairwise Record.Precedes)
    (divides : Divides time (applied ++ record :: rest)) {result : Except CompactionError Unit}
    (applyEq : compactor.apply timeline record = (next, result)) :
    (∀ batch, .rowBatch batch ∈ next.written →
      batch.OnOneSide timeline (applied ++ record :: rest) time) ∧
    (result = .ok () → ∃ later,
      next.IsDivided timeline time (applied ++ record :: rest) (applied ++ [record]) later) := by
  have nextEq : (compactor.apply timeline record).1 = next := congrArg Prod.fst applyEq
  cases record with
  | rowBatch batch =>
      have written : ∀ other, .rowBatch other ∈ next.written →
          other.OnOneSide timeline (applied ++ .rowBatch batch :: rest) time := by
        intro other otherMem
        rw [← nextEq, written_apply_rowBatch] at otherMem
        exact divided.written other otherMem
      refine ⟨written, ?_⟩
      rintro rfl
      refine ⟨batches ++ [batch], (divided.isAt.rowBatch applyEq).2, ?_, written⟩
      rcases divided.since with ⟨before, rfl⟩
      exact ⟨before, by simp⟩
  | schemaChange change =>
      have counted : compactor.countRecord.IsAt timeline applied batches :=
        ⟨divided.isAt.latest_eq, divided.isAt.applied_ne_nil, divided.isAt.pending_eq⟩
      rcases counted.flush (Timestamp.before change.stamp) with ⟨rows, flushed, -, writes⟩
      rcases written_apply_schemaChange timeline compactor change with ⟨changes, writtenEq⟩
      have written : ∀ batch, .rowBatch batch ∈ next.written →
          batch.OnOneSide timeline (applied ++ .schemaChange change :: rest) time := by
        intro batch batchMem
        rw [← nextEq, writtenEq, flushed] at batchMem
        simp only [List.mem_append, List.mem_map, reduceCtorEq, and_false, exists_false, or_false]
          at batchMem
        rcases batchMem with earlier | inRows
        · exact divided.written batch earlier
        · have position : batches.map Record.rowBatch <:+:
              applied ++ .schemaChange change :: rest :=
            divided.since.isInfix.trans (List.prefix_append applied _).isInfix
          apply onOneSide_of_writes position (writes none) _ (by simpa using inRows)
          rintro stamp ⟨rfl⟩ notEmpty
          exact side_of_before ordered divides divided.since notEmpty
      refine ⟨written, ?_⟩
      rintro rfl
      rcases divided.isAt.schemaChange applyEq with ⟨_, -, later, -⟩
      exact ⟨[], later, List.nil_suffix, written⟩

end Stream

/-- However far a compactor comes with its stream, all that it writes is divided. -/
theorem IsDivided.run (steps : List Step)
    (divided : compactor.IsDivided timeline time (applied ++ steps.filterMap Step.record?) applied
      batches)
    (ordered : (applied ++ steps.filterMap Step.record?).Pairwise Record.Precedes)
    (divides : Divides time (applied ++ steps.filterMap Step.record?))
    {result : Except CompactionError Unit} (runEq : compactor.run timeline steps = (next, result)) :
    (∀ batch, .rowBatch batch ∈ next.written →
      batch.OnOneSide timeline (applied ++ steps.filterMap Step.record?) time) ∧
    (result = .ok () → ∃ later,
      next.IsDivided timeline time (applied ++ steps.filterMap Step.record?)
        (applied ++ steps.filterMap Step.record?) later) := by
  induction steps generalizing compactor applied batches with
  | nil =>
      simp only [Compactor.run, Prod.mk.injEq] at runEq
      rcases runEq with ⟨rfl, rfl⟩
      exact ⟨divided.written, fun _ => ⟨batches, by simpa using divided⟩⟩
  | cons step rest ih =>
      cases step with
      | endPass =>
          have records : (Step.endPass :: rest).filterMap Step.record? =
              rest.filterMap Step.record? := rfl
          rw [records] at divided ordered divides ⊢
          exact ih (divided.endPass ordered divides) ordered divides runEq
      | record record =>
          have records : (Step.record record :: rest).filterMap Step.record? =
              record :: rest.filterMap Step.record? := rfl
          rw [records] at divided ordered divides ⊢
          rcases applyEq : compactor.apply timeline record with ⟨middle, error | done⟩
          · have stopped : compactor.run timeline (.record record :: rest) =
                (middle, .error error) := by
              rw [Compactor.run, runStep, applyEq]
            rw [stopped, Prod.mk.injEq] at runEq
            rcases runEq with ⟨rfl, rfl⟩
            exact ⟨(divided.apply ordered divides applyEq).1, fun success => by contradiction⟩
          · have went : compactor.run timeline (.record record :: rest) =
                middle.run timeline rest := by
              rw [Compactor.run, runStep, applyEq]
            rw [went] at runEq
            rcases (divided.apply ordered divides applyEq).2 rfl with ⟨later, middleDivided⟩
            have position : applied ++ record :: rest.filterMap Step.record? =
                (applied ++ [record]) ++ rest.filterMap Step.record? := by simp
            rw [position] at middleDivided ordered divides ⊢
            exact ih middleDivided ordered divides runEq

theorem filterMap_record?_flatMap_passSteps (passes : List LogContents) :
    (passes.flatMap passSteps).filterMap Step.record? = passes.flatMap LogContents.records := by
  induction passes with
  | nil => rfl
  | cons pass rest ih =>
      simp [passSteps, List.filterMap_append, List.filterMap_cons, Function.comp_def, Step.record?,
        ih]

/-- In a stream that is in order, whatever the passes, a time that divides it divides all that is
written for it, even when the compaction fails. -/
theorem onOneSide_of_mem_compact {passes : List LogContents}
    (readable : ∀ pass ∈ passes, pass.failure = none)
    (ordered : (passes.flatMap LogContents.records).Pairwise Record.Precedes)
    (divides : Divides time (passes.flatMap LogContents.records)) {batch : RowBatch}
    (batchMem : .rowBatch batch ∈ (compact timeline passes).1.written) :
    batch.OnOneSide timeline (passes.flatMap LogContents.records) time := by
  have runEq : start.run timeline (passes.flatMap passSteps) = start.addPasses timeline passes :=
    run_passes readable
  rw [← filterMap_record?_flatMap_passSteps] at ordered divides ⊢
  rw [compact] at batchMem
  generalize start.addPasses timeline passes = outcome at batchMem runEq
  rcases outcome with ⟨final, result⟩
  rcases isDivided_start.run (passes.flatMap passSteps) ordered divides runEq with
    ⟨written, reached⟩
  cases result with
  | error cause => exact written batch batchMem
  | ok done =>
      rcases reached rfl with ⟨later, divided⟩
      rw [← List.append_nil (List.filterMap ..)] at ordered divides
      have ended := IsDivided.endPass (by simpa using divided) ordered divides
      simpa using ended.written batch batchMem

end Compactor

end RowLog
