import RowLog.Proofs.Boundary

/-!
# The stamps of what is written

Where the records of a stream come in the order of their times, and every schema change is later
than all records before it, what is written for the stream comes in that order as well, wherever the
stream is cut into passes. A row batch that is written is not stamped before any of the row events
that it may come from, and it is stamped before every schema change that comes after them. Main
statement: `Compactor.areWrittenInTime_of_run`.
-/

namespace RowLog

/-- Whether one record may come before another: it is not from a later time, and a schema change is
later than all that comes before it. -/
def Record.MayPrecede (first second : Record) : Prop :=
  first.stamp ≤ second.stamp ∧ (second.isChange = true → first.stamp < second.stamp)

instance (first second : Record) : Decidable (first.MayPrecede second) :=
  inferInstanceAs (Decidable (_ ∧ _))

def Step.schemaChange? : Step → Option SchemaChange
  | .record (.schemaChange change) => some change
  | .record (.rowBatch _) | .endPass => none

/-- Whether records are written for segments, one segment after the other, and every row batch among
them is stamped in time: not before the row events of its segment, and before the schema changes
from the end of that segment on. -/
inductive AreWrittenInTime (timeline : Timeline) : List Segment → List Record → Prop
  | nil : AreWrittenInTime timeline [] []
  | cons {segment : Segment} {later : List Segment} {records others : List Record}
      (writes : segment.Writes timeline records)
      (notBefore : ∀ batch, .rowBatch batch ∈ records →
        ∀ event ∈ segment.events, event.1 ≤ batch.stamp)
      (before : ∀ batch, .rowBatch batch ∈ records →
        ∀ change ∈ (segment :: later).filterMap Segment.change, batch.stamp < change.stamp)
      (rest : AreWrittenInTime timeline later others) :
      AreWrittenInTime timeline (segment :: later) (records ++ others)

/-- The schema changes at the ends of the segments are those of the stream, in order. -/
theorem filterMap_change_segments (applied : List Record) (batches : List RowBatch)
    (steps : List Step) :
    (segments applied batches steps).filterMap Segment.change =
      steps.filterMap Step.schemaChange? := by
  induction steps generalizing applied batches with
  | nil => simp [segments]
  | cons step rest ih =>
      cases step with
      | record record =>
          cases record with
          | schemaChange change => simp [segments, ih, Step.schemaChange?]
          | rowBatch batch => simp [segments, ih, List.filterMap_cons, Step.schemaChange?]
      | endPass => simp [segments, ih, List.filterMap_cons, Step.schemaChange?]

theorem schemaChange_mem_of_mem_filterMap {steps : List Step} {change : SchemaChange}
    (changeMem : change ∈ steps.filterMap Step.schemaChange?) :
    .schemaChange change ∈ steps.filterMap Step.record? := by
  rw [List.mem_filterMap] at changeMem ⊢
  rcases changeMem with ⟨step, stepMem, stepEq⟩
  refine ⟨step, stepMem, ?_⟩
  cases step with
  | record record =>
      cases record with
      | schemaChange other =>
          rw [Step.schemaChange?, Option.some.injEq] at stepEq
          rw [Step.record?, stepEq]
      | rowBatch batch => simp [Step.schemaChange?] at stepEq
  | endPass => simp [Step.schemaChange?] at stepEq

/-- What is written for a segment are row batches with the stamp of the segment, and then its schema
change. -/
theorem Segment.Writes.exists_rows {timeline : Timeline} {segment : Segment}
    {records : List Record} (writes : segment.Writes timeline records) :
    ∃ rows, records = rows ++ segment.change.toList.map Record.schemaChange ∧
      ∀ row ∈ rows, segment.stamp = some row.stamp ∧ segment.batches ≠ [] := by
  have ofBatch {batch : RowBatch} (batchMem : .rowBatch batch ∈ records) :
      segment.stamp = some batch.stamp ∧ segment.batches ≠ [] :=
    ⟨(writes.rowBatch batchMem).1, (writes.rowBatch batchMem).2.1⟩
  rcases writes with ⟨nets, pending, pieces, rows, keyed, folded, cut, written, rfl⟩
  refine ⟨rows, rfl, fun row rowMem => ?_⟩
  rcases exists_mem_of_forall₂ written rowMem with ⟨piece, -, stamp, -, rfl⟩
  exact ofBatch (List.mem_append_left _ rowMem)

theorem le_stamp_of_mem_events {batches : List RowBatch} {latest : Option Timestamp}
    {change : Option SchemaChange} {stamp : Timestamp}
    (bounded : ∀ batch ∈ batches, batch.stamp ≤ stamp) :
    ∀ event ∈ Segment.events ⟨batches, latest, change⟩, event.1 ≤ stamp := by
  intro event eventMem
  rw [← eventsOf_rowBatches] at eventMem
  rcases mem_eventsOf_rowBatches eventMem with ⟨batch, batchMem, same⟩
  rw [← same]
  exact bounded batch batchMem

/-- Whether records are written in time for the segments to come, after some records have been taken
in: none of those is from after a record that is written. -/
structure AreInTime (timeline : Timeline) (applied : List Record) (later : List Segment)
    (records : List Record) : Prop where
  ordered : records.Pairwise fun first second => first.stamp ≤ second.stamp
  notBefore : ∀ record ∈ records, ∀ earlier ∈ applied, earlier.stamp ≤ record.stamp
  written : AreWrittenInTime timeline later records

namespace AreInTime

variable {timeline : Timeline} {applied : List Record} {batches : List RowBatch}
  {later : List Segment} {records others : List Record}

theorem nil : AreInTime timeline applied [] [] :=
  ⟨.nil, by simp, .nil⟩

/-- A segment that the end of a pass ends, before the segments to come. -/
theorem endPass (rest : AreInTime timeline applied later others)
    (since : ∀ batch ∈ batches, .rowBatch batch ∈ applied)
    (before : ∀ earlier ∈ applied, ∀ change ∈ later.filterMap Segment.change,
      earlier.stamp < change.stamp)
    (writes : Segment.Writes timeline ⟨batches, latestOf applied, none⟩ records) :
    AreInTime timeline applied (⟨batches, latestOf applied, none⟩ :: later)
      (records ++ others) := by
  rcases writes.exists_rows with ⟨rows, recordsEq, stamped⟩
  rw [Option.toList_none, List.map_nil, List.append_nil] at recordsEq
  subst recordsEq
  have latest : ∀ row ∈ records, (∃ last ∈ applied, last.stamp = row.stamp) ∧
      ∀ earlier ∈ applied, earlier.stamp ≤ row.stamp := fun row rowMem =>
    latestOf_eq_some_iff.mp (stamped row rowMem).1
  refine ⟨?_, ?_, .cons writes ?_ ?_ rest.written⟩
  · rw [List.pairwise_append]
    refine ⟨?_, rest.ordered, ?_⟩
    · apply List.pairwise_of_forall_mem_list
      intro first firstMem second secondMem
      have same := (stamped first firstMem).1.symm.trans (stamped second secondMem).1
      exact Int64.le_of_eq (Option.some.inj same)
    · intro row rowMem other otherMem
      rcases (latest row rowMem).1 with ⟨last, lastMem, same⟩
      rw [← same]
      exact rest.notBefore other otherMem last lastMem
  · intro record recordMem earlier earlierMem
    rcases List.mem_append.mp recordMem with inRows | inOthers
    · exact (latest record inRows).2 earlier earlierMem
    · exact rest.notBefore record inOthers earlier earlierMem
  · intro batch batchMem
    exact le_stamp_of_mem_events fun source sourceMem =>
      (latest _ batchMem).2 (.rowBatch source) (since source sourceMem)
  · intro batch batchMem change changeMem
    rcases (latest _ batchMem).1 with ⟨last, lastMem, same⟩
    have early := before last lastMem change (by simpa using changeMem)
    rwa [same] at early

/-- A segment that a schema change ends, before the segments to come. -/
theorem schemaChange {change : SchemaChange}
    (rest : AreInTime timeline (applied ++ [.schemaChange change]) later others)
    (since : ∀ batch ∈ batches, .rowBatch batch ∈ applied)
    (isLater : ∀ earlier ∈ applied, earlier.stamp < change.stamp)
    (before : ∀ next ∈ later.filterMap Segment.change, change.stamp < next.stamp)
    (writes : Segment.Writes timeline
      ⟨batches, some (Timestamp.before change.stamp), some change⟩ records) :
    AreInTime timeline applied
      (⟨batches, some (Timestamp.before change.stamp), some change⟩ :: later)
      (records ++ others) := by
  rcases writes.exists_rows with ⟨rows, recordsEq, stamped⟩
  rw [Option.toList_some, List.map_singleton] at recordsEq
  subst recordsEq
  have rowStamp : ∀ row ∈ rows, row.stamp = Timestamp.before change.stamp := fun row rowMem =>
    (Option.some.inj (stamped row rowMem).1).symm
  -- Something is written, so something has been taken in, and it is from before the change.
  have rowBefore : ∀ row ∈ rows, row.stamp < change.stamp := by
    intro row rowMem
    rcases List.exists_mem_of_ne_nil _ (stamped row rowMem).2 with ⟨source, sourceMem⟩
    rw [rowStamp row rowMem]
    exact Timestamp.before_lt (isLater _ (since source sourceMem))
  have otherAfter : ∀ other ∈ others, change.stamp ≤ other.stamp := fun other otherMem =>
    rest.notBefore other otherMem (.schemaChange change) (by simp)
  have batchRow {batch : RowBatch}
      (batchMem : .rowBatch batch ∈ rows ++ [Record.schemaChange change]) :
      .rowBatch batch ∈ rows := by
    simpa using batchMem
  refine ⟨?_, ?_, .cons writes ?_ ?_ rest.written⟩
  · rw [List.append_assoc, List.pairwise_append, List.singleton_append, List.pairwise_cons]
    refine ⟨?_, ⟨otherAfter, rest.ordered⟩, ?_⟩
    · apply List.pairwise_of_forall_mem_list
      intro first firstMem second secondMem
      exact Int64.le_of_eq ((rowStamp first firstMem).trans (rowStamp second secondMem).symm)
    · intro row rowMem other otherMem
      have early := Int64.le_of_lt (rowBefore row rowMem)
      rcases List.mem_cons.mp otherMem with rfl | inOthers
      · exact early
      · exact Int64.le_trans early (otherAfter other inOthers)
  · intro record recordMem earlier earlierMem
    rw [List.append_assoc, List.singleton_append, List.mem_append, List.mem_cons] at recordMem
    have early := isLater earlier earlierMem
    rcases recordMem with inRows | rfl | inOthers
    · rw [rowStamp record inRows]
      exact Timestamp.le_before early
    · exact Int64.le_of_lt early
    · exact rest.notBefore record inOthers earlier (by simp [earlierMem])
  · intro batch batchMem
    refine le_stamp_of_mem_events fun source sourceMem => ?_
    have same : batch.stamp = Timestamp.before change.stamp :=
      rowStamp (.rowBatch batch) (batchRow batchMem)
    rw [same]
    exact Timestamp.le_before (isLater (.rowBatch source) (since source sourceMem))
  · intro batch batchMem next nextMem
    have early := rowBefore (.rowBatch batch) (batchRow batchMem)
    simp only [List.filterMap_cons, List.mem_cons] at nextMem
    rcases nextMem with rfl | isNext
    · exact early
    · exact Int64.lt_trans early (before next isNext)

end AreInTime

/-- Whatever is written for the segments of a stream in order is written in time. -/
theorem areInTime_of_writes {timeline : Timeline} (steps : List Step) {applied : List Record}
    {batches : List RowBatch} {outputs : List (List Record)}
    (ordered : (applied ++ steps.filterMap Step.record?).Pairwise Record.MayPrecede)
    (since : ∀ batch ∈ batches, .rowBatch batch ∈ applied)
    (writes : List.Forall₂ (Segment.Writes timeline) (segments applied batches steps) outputs) :
    AreInTime timeline applied (segments applied batches steps) outputs.flatten := by
  induction steps generalizing applied batches outputs with
  | nil =>
      rw [segments] at writes ⊢
      rcases List.forall₂_cons_left_iff.mp writes with ⟨records, others, first, nothing, rfl⟩
      rw [List.forall₂_nil_left_iff] at nothing
      subst nothing
      exact AreInTime.nil.endPass since (by simp) first
  | cons step rest ih =>
      cases step with
      | endPass =>
          have later : (Step.endPass :: rest).filterMap Step.record? =
              rest.filterMap Step.record? := rfl
          rw [later] at ordered
          rw [segments] at writes ⊢
          rcases List.forall₂_cons_left_iff.mp writes with ⟨records, others, first, restWrites, rfl⟩
          refine (ih ordered (by simp) restWrites).endPass since ?_ first
          intro earlier earlierMem change changeMem
          rw [filterMap_change_segments] at changeMem
          exact ((List.pairwise_append.mp ordered).2.2 earlier earlierMem _
            (schemaChange_mem_of_mem_filterMap changeMem)).2 rfl
      | record record =>
          have later : (Step.record record :: rest).filterMap Step.record? =
              record :: rest.filterMap Step.record? := rfl
          rw [later] at ordered
          have restOrdered : ((applied ++ [record]) ++ rest.filterMap Step.record?).Pairwise
              Record.MayPrecede := by
            simpa using ordered
          cases record with
          | rowBatch batch =>
              rw [segments] at writes ⊢
              have stillSince : ∀ other ∈ batches ++ [batch],
                  .rowBatch other ∈ applied ++ [Record.rowBatch batch] := by
                intro other otherMem
                rw [List.mem_append, List.mem_singleton] at otherMem
                rcases otherMem with before | rfl
                · exact List.mem_append_left _ (since other before)
                · simp
              have inTime := ih restOrdered stillSince writes
              refine ⟨inTime.ordered, ?_, inTime.written⟩
              intro record recordMem earlier earlierMem
              exact inTime.notBefore record recordMem earlier (by simp [earlierMem])
          | schemaChange change =>
              rw [segments, ← Timestamp.before_eq_ofInt] at writes ⊢
              rcases List.forall₂_cons_left_iff.mp writes with
                ⟨records, others, first, restWrites, rfl⟩
              refine (ih restOrdered (by simp) restWrites).schemaChange since ?_ ?_ first
              · intro earlier earlierMem
                exact ((List.pairwise_append.mp ordered).2.2 earlier earlierMem
                  (.schemaChange change) (by simp)).2 rfl
              · intro next nextMem
                rw [filterMap_change_segments] at nextMem
                exact ((List.pairwise_append.mp restOrdered).2.2 (.schemaChange change) (by simp) _
                  (schemaChange_mem_of_mem_filterMap nextMem)).2 rfl

namespace Compactor

/-- In a stream in the order of its times, the records that are written are in that order, and the
row batches among them are stamped in time for their row events and the schema changes after
them. -/
theorem areWrittenInTime_of_run (timeline : Timeline) (steps : List Step) (final : Compactor)
    (ordered : (steps.filterMap Step.record?).Pairwise Record.MayPrecede)
    (success : start.run timeline steps = (final, .ok ())) :
    (final.finish.written.map Record.stamp).Pairwise (· ≤ ·) ∧
      AreWrittenInTime timeline (segments [] [] steps) final.finish.written ∧
      (segments [] [] steps).flatMap Segment.batches = steps.filterMap Step.rowBatch? ∧
      (segments [] [] steps).filterMap Segment.change = steps.filterMap Step.schemaChange? := by
  rcases isAt_start.run steps success with ⟨outputs, writes, written⟩
  have inTime : AreInTime timeline [] (segments [] [] steps) outputs.flatten :=
    areInTime_of_writes steps ordered (by simp) writes
  have writtenEq : final.finish.written = outputs.flatten := by
    rw [written]
    rfl
  rw [← writtenEq] at inTime
  refine ⟨List.pairwise_map.mpr inTime.ordered, inTime.written, ?_, ?_⟩
  · rw [flatMap_batches_segments, List.nil_append]
  · exact filterMap_change_segments [] [] steps

/-- Two schema changes, with a row batch between them at the time of the first one, and the end of a
pass just before it. -/
theorem areWrittenInTime_of_run_of_two_changes :
    let info : TableInfo := ⟨["id"], some ⟨"PRIMARY", ["id"]⟩, []⟩
    let timeline : Timeline :=
      ⟨.empty, (∅ : Std.ExtTreeMap _ _ Schema.QualifiedName.compare).insert ⟨"shop", "orders"⟩
        [⟨0, some info⟩], ∅⟩
    let event (kind : EventKind) (id : Int64) : RowEvent :=
      ⟨"shop", "orders", kind, [Column.encode ⟨"id", .long, .int id, none⟩]⟩
    let first : SchemaChange := ⟨7, "ALTER TABLE orders ADD note TEXT"⟩
    let second : SchemaChange := ⟨9, "ALTER TABLE orders DROP COLUMN note"⟩
    let steps : List Step :=
      [.record (.rowBatch ⟨4, [event .insert 1]⟩), .record (.rowBatch ⟨5, [event .update 1]⟩),
        .endPass, .record (.schemaChange first), .record (.rowBatch ⟨7, [event .delete 1]⟩),
        .record (.schemaChange second)]
    (steps.filterMap Step.record?).Pairwise Record.MayPrecede ∧
      ∃ final, start.run timeline steps = (final, .ok ()) ∧
        final.finish.written.map Record.stamp = [5, 7, 8, 9] ∧
        (final.finish.written.map Record.stamp).Pairwise (· ≤ ·) ∧
        AreWrittenInTime timeline (segments [] [] steps) final.finish.written ∧
        (segments [] [] steps).flatMap Segment.batches = steps.filterMap Step.rowBatch? ∧
        (segments [] [] steps).filterMap Segment.change = steps.filterMap Step.schemaChange? := by
  intro info timeline event first second steps
  have ordered : (steps.filterMap Step.record?).Pairwise Record.MayPrecede := by
    decide
  have succeeds : (start.run timeline steps).2 = .ok () := by
    decide +kernel
  have success : start.run timeline steps = ((start.run timeline steps).1, .ok ()) :=
    Prod.ext rfl succeeds
  have stamps : (start.run timeline steps).1.finish.written.map Record.stamp = [5, 7, 8, 9] := by
    decide +kernel
  exact ⟨ordered, _, success, stamps, areWrittenInTime_of_run timeline steps _ ordered success⟩

end Compactor

end RowLog
