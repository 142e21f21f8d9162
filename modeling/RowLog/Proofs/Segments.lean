import RowLog.Proofs.CompactorSteps

/-!
# The segments of a stream

A schema change, the end of a pass and the end of the stream are the boundaries of a stream, and
the row batches between two boundaries are a `Segment`. `Segment.Writes` says what is to be
written for a segment taken by itself: the events that its own row events come to, starting with
nothing pending.

A compactor goes through the stream with a single table of pending events and one running maximum
of the times. The main statement is that what it writes is nevertheless what the segments are to
be written as, one after the other.
-/

namespace RowLog

/-- A step of a compaction. -/
inductive Step
  | record (record : Record)
  | endPass

def Step.rowBatch? : Step → Option RowBatch
  | .record (.rowBatch batch) => some batch
  | .record (.schemaChange _) | .endPass => none

/-- The row batches between two boundaries of a stream. -/
structure Segment where
  batches : List RowBatch
  /-- The time as of which the net events are written; none before the first record. -/
  stamp : Option Timestamp
  /-- The schema change at the end of the segment, if there is one. -/
  change : Option SchemaChange

namespace Segment

/-- The row events of the segment, each with the time of its commit. -/
def events (segment : Segment) : List (Timestamp × RowEvent) :=
  segment.batches.flatMap fun batch => batch.events.map fun event => (batch.stamp, event)

/-- Whether given records are what the segment is to be written as, whatever comes before it. -/
def Writes (timeline : Timeline) (segment : Segment) (records : List Record) : Prop :=
  ∃ nets pending pieces rows,
    List.Forall₂ (fun event net => KeyedAs timeline event.1 event.2 net) segment.events nets ∧
      Pending.empty.applyAll nets = .ok pending ∧
      IsCut pending.drain.1 pieces ∧
      List.Forall₂
        (fun piece record => ∃ stamp, segment.stamp = some stamp ∧
          record = Record.rowBatch ⟨stamp, piece.map NetEvent.toRowEvent⟩) pieces rows ∧
      records = rows ++ segment.change.toList.map Record.schemaChange

end Segment

def latestOf (records : List Record) : Option Timestamp :=
  (records.map Record.stamp).max?

/-- The segments of the steps to come, where some records have been taken in and the row batches
since the last boundary are given. -/
def segments (applied : List Record) (batches : List RowBatch) : List Step → List Segment
  | [] => [⟨batches, latestOf applied, none⟩]
  | .endPass :: rest => ⟨batches, latestOf applied, none⟩ :: segments applied [] rest
  | .record (.schemaChange change) :: rest =>
      ⟨batches, some (Int64.ofInt (max (change.stamp.toInt - 1) Int64.minValue.toInt)),
          some change⟩ ::
        segments (applied ++ [.schemaChange change]) [] rest
  | .record (.rowBatch batch) :: rest =>
      segments (applied ++ [.rowBatch batch]) (batches ++ [batch]) rest

/-- Every row batch is in one segment, and they are in order. -/
theorem flatMap_batches_segments (applied : List Record) (batches : List RowBatch)
    (steps : List Step) :
    (segments applied batches steps).flatMap Segment.batches =
      batches ++ steps.filterMap Step.rowBatch? := by
  induction steps generalizing applied batches with
  | nil => simp [segments]
  | cons step rest ih =>
      cases step with
      | record record =>
          cases record with
          | schemaChange change => simp [segments, ih, List.filterMap_cons, Step.rowBatch?]
          | rowBatch batch => simp [segments, ih, Step.rowBatch?]
      | endPass => simp [segments, ih, List.filterMap_cons, Step.rowBatch?]

theorem latestOf_append_singleton (records : List Record) (record : Record) :
    latestOf (records ++ [record]) =
      some ((latestOf records).elim record.stamp (max · record.stamp)) := by
  cases records with
  | nil => rfl
  | cons first rest => simp [latestOf, List.max?_cons', List.foldl_append]

namespace Compactor

def runStep (timeline : Timeline) (compactor : Compactor) :
    Step → Compactor × Except CompactionError Unit
  | .record record => compactor.apply timeline record
  | .endPass => (compactor.endPass, .ok ())

def run (timeline : Timeline) (compactor : Compactor) :
    List Step → Compactor × Except CompactionError Unit
  | [] => (compactor, .ok ())
  | step :: rest =>
      match compactor.runStep timeline step with
      | (next, .ok ()) => next.run timeline rest
      | failed => failed

theorem run_cons_eq_ok {timeline : Timeline} {compactor final : Compactor} {step : Step}
    {rest : List Step} (success : compactor.run timeline (step :: rest) = (final, .ok ())) :
    ∃ next, compactor.runStep timeline step = (next, .ok ()) ∧
      next.run timeline rest = (final, .ok ()) := by
  rw [run] at success
  cases stepEq : compactor.runStep timeline step with
  | mk next result =>
      cases result with
      | error cause => simp [stepEq] at success
      | ok done =>
          simp only [stepEq] at success
          exact ⟨next, rfl, success⟩

/-- Whether a compactor has taken in some records, of which the row batches since the last boundary
have yet to be written. -/
structure IsAt (compactor : Compactor) (timeline : Timeline) (applied : List Record)
    (batches : List RowBatch) : Prop where
  latest_eq : compactor.latest = latestOf applied
  applied_ne_nil : batches ≠ [] → applied ≠ []
  pending_eq : ∃ nets fresh count,
    List.Forall₂ (fun event net => KeyedAs timeline event.1 event.2 net)
      (Segment.events ⟨batches, none, none⟩) nets ∧
    Pending.empty.applyAll nets = .ok fresh ∧ compactor.pending = fresh.recount count

variable {timeline : Timeline} {compactor next : Compactor} {applied : List Record}
  {batches : List RowBatch}

theorem isAt_start : start.IsAt timeline [] [] where
  latest_eq := rfl
  applied_ne_nil := fun notNil => absurd rfl notNil
  pending_eq := ⟨[], .empty, 0, List.Forall₂.nil, rfl, rfl⟩

/-- What is pending is written for the segment alone, and nothing of it stays. -/
theorem IsAt.flush (isAt : compactor.IsAt timeline applied batches) (stamp : Timestamp) :
    ∃ rows, (compactor.flush stamp).written = compactor.written ++ rows ∧
      (compactor.flush stamp).IsAt timeline applied [] ∧
      ∀ change, Segment.Writes timeline ⟨batches, some stamp, change⟩
        (rows ++ change.toList.map Record.schemaChange) := by
  rcases isAt.pending_eq with ⟨nets, fresh, count, keyed, folded, pendingEq⟩
  have drained : compactor.pending.drain.1 = fresh.drain.1 := by
    rw [pendingEq]
    rfl
  refine ⟨rowRecords stamp (RowLog.batches fresh.drain.1), ?_, ⟨?_, ?_, ?_⟩, ?_⟩
  · rw [written_flush, drained]
  · rw [latest_flush, isAt.latest_eq]
  · intro notNil
    exact absurd rfl notNil
  · refine ⟨[], .empty, compactor.pending.invalidCount, List.Forall₂.nil, rfl, ?_⟩
    rw [pending_flush, Pending.snd_drain_eq]
  · intro change
    refine ⟨nets, fresh, RowLog.batches fresh.drain.1, _, keyed, folded, isCut_batches _, ?_, rfl⟩
    rw [rowRecords, List.forall₂_map_right_iff, List.forall₂_same]
    intro piece _
    exact ⟨stamp, rfl, rfl⟩

/-- At the end of a pass, what is pending is written as of the latest time. Before the first record,
nothing is pending. -/
theorem IsAt.endPass (isAt : compactor.IsAt timeline applied batches) :
    ∃ records, compactor.endPass.written = compactor.written ++ records ∧
      compactor.endPass.IsAt timeline applied [] ∧
      Segment.Writes timeline ⟨batches, latestOf applied, none⟩ records := by
  cases latestEq : latestOf applied with
  | none =>
      have appliedNil : applied = [] := by
        simpa [latestOf] using latestEq
      have batchesNil : batches = [] := by
        by_contra notNil
        exact isAt.applied_ne_nil notNil appliedNil
      subst batchesNil
      have unchanged : compactor.endPass = compactor := by
        unfold Compactor.endPass
        rw [isAt.latest_eq, latestEq]
      refine ⟨[], ?_, ?_, ?_⟩
      · rw [unchanged, List.append_nil]
      · rw [unchanged]
        exact isAt
      · refine ⟨[], .empty, [], [], List.Forall₂.nil, rfl, ?_, List.Forall₂.nil, rfl⟩
        rw [Pending.fst_drain_empty]
        exact ⟨rfl, by simp, by simp⟩
  | some stamp =>
      have flushes : compactor.endPass = compactor.flush stamp := by
        unfold Compactor.endPass
        rw [isAt.latest_eq, latestEq]
      rcases isAt.flush stamp with ⟨rows, written, later, writes⟩
      refine ⟨rows, ?_, ?_, ?_⟩
      · rw [flushes, written]
      · rw [flushes]
        exact later
      · simpa using writes none

theorem IsAt.schemaChange (isAt : compactor.IsAt timeline applied batches) {change : SchemaChange}
    (success : compactor.apply timeline (.schemaChange change) = (next, .ok ())) :
    ∃ records, next.written = compactor.written ++ records ∧
      next.IsAt timeline (applied ++ [.schemaChange change]) [] ∧
      Segment.Writes timeline ⟨batches, some (Timestamp.before change.stamp), some change⟩
        records := by
  have counted : compactor.countRecord.IsAt timeline applied batches :=
    ⟨isAt.latest_eq, isAt.applied_ne_nil, isAt.pending_eq⟩
  rcases counted.flush (Timestamp.before change.stamp) with ⟨rows, written, later, writes⟩
  cases checked : timeline.checkReplayed change.stamp with
  | error cause => simp [apply, addChange, checked] at success
  | ok done =>
      simp only [apply, addChange, checked, Prod.mk.injEq, and_true] at success
      subst success
      refine ⟨rows ++ [.schemaChange change], ?_, ⟨?_, ?_, ?_⟩, writes (some change)⟩
      · simp only [advance, writeChange, written, List.append_assoc]
        rfl
      · rw [latestOf_append_singleton, ← later.latest_eq]
        rfl
      · simp
      · exact later.pending_eq

theorem IsAt.rowBatch (isAt : compactor.IsAt timeline applied batches) {batch : RowBatch}
    (success : compactor.apply timeline (.rowBatch batch) = (next, .ok ())) :
    next.written = compactor.written ∧
      next.IsAt timeline (applied ++ [.rowBatch batch]) (batches ++ [batch]) := by
  cases added : compactor.countRecord.addEvents timeline batch.stamp batch.events with
  | mk middle result =>
      cases result with
      | error cause => simp [apply, added] at success
      | ok done =>
          simp only [apply, added, Prod.mk.injEq, and_true] at success
          subst success
          rcases addEvents_eq_ok batch.events added with
            ⟨moreNets, moreKeyed, moreFolded, written, latest⟩
          rcases isAt.pending_eq with ⟨nets, fresh, count, keyed, folded, pendingEq⟩
          refine ⟨written, ?_, by simp, ?_⟩
          · rw [latestOf_append_singleton, ← isAt.latest_eq]
            simp only [advance, latest]
            rfl
          · have pendingCounted : compactor.countRecord.pending = fresh.recount count := pendingEq
            rw [pendingCounted] at moreFolded
            rcases Pending.applyAll_recount moreNets moreFolded with
              ⟨moreFresh, moreCount, moreFreshFolded, morePendingEq⟩
            refine ⟨nets ++ moreNets, moreFresh, moreCount, ?_, ?_, morePendingEq⟩
            · have stamped : Segment.events ⟨batches ++ [batch], none, none⟩ =
                  Segment.events ⟨batches, none, none⟩ ++
                    batch.events.map fun event => (batch.stamp, event) := by
                simp [Segment.events]
              rw [stamped]
              apply List.rel_append keyed
              rw [List.forall₂_map_left_iff]
              exact moreKeyed
            · rw [Pending.applyAll_append nets moreNets folded]
              exact moreFreshFolded

/-- From any point of a stream on, what is written is what the segments to come are to be written
as. -/
theorem IsAt.run (steps : List Step) (isAt : compactor.IsAt timeline applied batches)
    {final : Compactor} (success : compactor.run timeline steps = (final, .ok ())) :
    ∃ outputs,
      List.Forall₂ (Segment.Writes timeline) (segments applied batches steps) outputs ∧
      final.finish.written = compactor.written ++ outputs.flatten := by
  induction steps generalizing compactor applied batches with
  | nil =>
      simp only [Compactor.run, Prod.mk.injEq, and_true] at success
      subst success
      rcases isAt.endPass with ⟨records, written, _, writes⟩
      refine ⟨[records], List.Forall₂.cons writes List.Forall₂.nil, ?_⟩
      simpa [finish] using written
  | cons step rest ih =>
      rcases run_cons_eq_ok success with ⟨next, stepEq, restSuccess⟩
      cases step with
      | endPass =>
          simp only [runStep, Prod.mk.injEq, and_true] at stepEq
          subst stepEq
          rcases isAt.endPass with ⟨records, written, later, writes⟩
          rcases ih later restSuccess with ⟨outputs, restWrites, restWritten⟩
          refine ⟨records :: outputs, List.Forall₂.cons writes restWrites, ?_⟩
          rw [restWritten, written, List.flatten_cons, List.append_assoc]
      | record record =>
          cases record with
          | schemaChange change =>
              rcases isAt.schemaChange stepEq with ⟨records, written, later, writes⟩
              rcases ih later restSuccess with ⟨outputs, restWrites, restWritten⟩
              rw [Timestamp.before_eq_ofInt] at writes
              refine ⟨records :: outputs, List.Forall₂.cons writes restWrites, ?_⟩
              rw [restWritten, written, List.flatten_cons, List.append_assoc]
          | rowBatch batch =>
              rcases isAt.rowBatch stepEq with ⟨written, later⟩
              rcases ih later restSuccess with ⟨outputs, restWrites, restWritten⟩
              exact ⟨outputs, restWrites, by rw [restWritten, written]⟩

/-- What a compactor writes is what the segments of its stream are to be written as, one after the
other, and every row batch of the stream is in one of them. -/
theorem written_finish_of_run (timeline : Timeline) (steps : List Step) (final : Compactor)
    (success : start.run timeline steps = (final, .ok ())) :
    (∃ outputs, List.Forall₂ (Segment.Writes timeline) (segments [] [] steps) outputs ∧
      final.finish.written = outputs.flatten) ∧
    (segments [] [] steps).flatMap Segment.batches = steps.filterMap Step.rowBatch? := by
  constructor
  · rcases isAt_start.run steps success with ⟨outputs, writes, written⟩
    exact ⟨outputs, writes, by simpa [start] using written⟩
  · rw [flatMap_batches_segments, List.nil_append]

/-- Three segments, of which the first one is empty: it ends before the first record. -/
theorem written_finish_of_three_segments :
    let info : TableInfo := ⟨["id"], some ⟨"PRIMARY", ["id"]⟩, []⟩
    let timeline : Timeline :=
      ⟨.empty, (∅ : Std.ExtTreeMap _ _ Schema.QualifiedName.compare).insert ⟨"shop", "orders"⟩
        [⟨0, some info⟩], ∅⟩
    let event (kind : EventKind) (id : Int64) : RowEvent :=
      ⟨"shop", "orders", kind, [Column.encode ⟨"id", .long, .int id, none⟩]⟩
    let steps : List Step :=
      [.endPass, .record (.rowBatch ⟨5, [event .insert 1]⟩),
        .record (.rowBatch ⟨6, [event .update 1]⟩),
        .record (.schemaChange ⟨7, "ALTER TABLE orders ADD note TEXT"⟩),
        .record (.rowBatch ⟨8, [event .delete 1]⟩)]
    ∃ final, start.run timeline steps = (final, .ok ()) ∧
      (∃ outputs, List.Forall₂ (Segment.Writes timeline) (segments [] [] steps) outputs ∧
        final.finish.written = outputs.flatten) ∧
      (segments [] [] steps).flatMap Segment.batches = steps.filterMap Step.rowBatch? := by
  intro info timeline event steps
  have succeeds : (start.run timeline steps).2 = .ok () := by
    decide +kernel
  have success : start.run timeline steps = ((start.run timeline steps).1, .ok ()) :=
    Prod.ext rfl succeeds
  exact ⟨_, success, written_finish_of_run timeline steps _ success⟩

theorem run_append (first second : List Step) :
    compactor.run timeline (first ++ second) =
      match compactor.run timeline first with
      | (next, .ok ()) => next.run timeline second
      | failed => failed := by
  induction first generalizing compactor with
  | nil => rfl
  | cons step rest ih =>
      simp only [List.cons_append, Compactor.run]
      rcases compactor.runStep timeline step with ⟨next, _ | done⟩
      · rfl
      · exact ih

theorem run_records (records : List Record) :
    compactor.run timeline (records.map Step.record) = compactor.applyAll timeline records := by
  induction records generalizing compactor with
  | nil => rfl
  | cons record rest ih =>
      simp only [List.map_cons, Compactor.run, runStep, applyAll]
      rcases compactor.apply timeline record with ⟨next, _ | done⟩
      · rfl
      · exact ih

def passSteps (pass : LogContents) : List Step :=
  pass.records.map Step.record ++ [.endPass]

theorem run_passSteps {pass : LogContents} (readable : pass.failure = none) :
    compactor.run timeline (passSteps pass) = compactor.addPass timeline pass := by
  simp only [passSteps, run_append, run_records, addPass, readable]
  rcases compactor.applyAll timeline pass.records with ⟨next, _ | done⟩
  · rfl
  · rfl

/-- Passes that can be read to their ends are taken in step by step. -/
theorem run_passes {passes : List LogContents}
    (readable : ∀ pass ∈ passes, pass.failure = none) :
    compactor.run timeline (passes.flatMap passSteps) = compactor.addPasses timeline passes := by
  induction passes generalizing compactor with
  | nil => rfl
  | cons pass rest ih =>
      simp only [List.flatMap_cons, run_append, run_passSteps (readable pass (by simp)), addPasses]
      rcases compactor.addPass timeline pass with ⟨next, _ | done⟩
      · rfl
      · exact ih fun other otherMem => readable other (by simp [otherMem])

theorem readable_of_addPasses {passes : List LogContents}
    (success : compactor.addPasses timeline passes = (next, .ok ())) :
    ∀ pass ∈ passes, pass.failure = none := by
  induction passes generalizing compactor with
  | nil => simp
  | cons pass rest ih =>
      rw [addPasses] at success
      rcases passEq : compactor.addPass timeline pass with ⟨middle, _ | done⟩
      · simp [passEq] at success
      · rw [passEq] at success
        have first : pass.failure = none := by
          simp only [addPass] at passEq
          cases readable : pass.failure with
          | none => rfl
          | some cause =>
              rcases applied : compactor.applyAll timeline pass.records with ⟨last, _ | all⟩
              · simp [applied] at passEq
              · simp [applied, readable] at passEq
        intro other otherMem
        rcases List.mem_cons.mp otherMem with rfl | later
        · exact first
        · exact ih success other later

/-- The passes of a stream are compacted segment by segment, where every pass ends one. -/
theorem written_finish_of_addPasses {passes : List LogContents} {final : Compactor}
    (success : start.addPasses timeline passes = (final, .ok ())) :
    ∃ outputs,
      List.Forall₂ (Segment.Writes timeline) (segments [] [] (passes.flatMap passSteps)) outputs ∧
      final.finish.written = outputs.flatten := by
  have steps := (run_passes (readable_of_addPasses success)).trans success
  rcases isAt_start.run (passes.flatMap passSteps) steps with ⟨outputs, writes, written⟩
  exact ⟨outputs, writes, by simpa [start] using written⟩

end Compactor

end RowLog
