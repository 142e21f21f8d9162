import RowLog.Catalog.Timeline
import RowLog.Log.Contents
import RowLog.Merge.Pending

/-!
# Compaction of a stream

A `Compactor` takes the records of one stream and writes the net effect of its row events. What is
pending is written before every schema change, at the end of every pass and at the end of the
stream; so no row event is carried over a schema change. Rows are told apart by the structure that
their table has at the time of their commit.
-/

namespace RowLog

/-- What has been counted while a stream was compacted. -/
structure CompactionStats where
  recordsIn : Nat
  eventsIn : Nat
  recordsOut : Nat
  eventsOut : Nat
  schemaChanges : Nat
  invalidTransitions : Nat
  deriving DecidableEq

def CompactionStats.zero : CompactionStats := ⟨0, 0, 0, 0, 0, 0⟩

/-- Why a stream cannot be compacted. -/
inductive CompactionError
  | log (cause : LogError)
  | catalog (cause : CatalogError)
  | row (cause : RowError)
  | keyConflict (cause : KeyConflict)
  deriving DecidableEq

/-- The wording of an error: that of its cause. -/
def CompactionError.message : CompactionError → String
  | .log cause => cause.message
  | .catalog cause => cause.message
  | .row cause => cause.message
  | .keyConflict cause => cause.message

def batchLimit : Nat := 1000

/-- Events in batches: all but the last one hold as many as a batch may. -/
def batches {α : Type} (events : List α) : List (List α) :=
  if events.isEmpty then []
  else events.take batchLimit :: batches (events.drop batchLimit)
termination_by events.length
decreasing_by
  cases events with
  | nil => contradiction
  | cons head tail =>
    rw [List.length_drop, List.length_cons]
    exact Nat.sub_lt (Nat.succ_pos _) (by decide)

/-- The time before a given one, or the same where there is none before it. -/
def Timestamp.before (stamp : Timestamp) : Timestamp :=
  if stamp = Int64.minValue then stamp else stamp - 1

/-- A stream that is being compacted. -/
structure Compactor where
  pending : Pending
  latest : Option Timestamp
  /-- The records that have been written, in order. -/
  written : List Record
  stats : CompactionStats

namespace Compactor

/-- A stream before its first record. -/
def start : Compactor := ⟨.empty, none, [], .zero⟩

def writeBatch (stamp : Timestamp) (compactor : Compactor) (events : List NetEvent) : Compactor :=
  { compactor with
    written := compactor.written ++ [.rowBatch ⟨stamp, events.map NetEvent.toRowEvent⟩]
    stats := { compactor.stats with
      recordsOut := compactor.stats.recordsOut + 1
      eventsOut := compactor.stats.eventsOut + events.length } }

/-- Writes what is pending, as of a given time. -/
def flush (compactor : Compactor) (stamp : Timestamp) : Compactor :=
  let (events, pending) := compactor.pending.drain
  (batches events).foldl (writeBatch stamp) { compactor with pending }

def writeChange (compactor : Compactor) (change : SchemaChange) : Compactor :=
  { compactor with
    written := compactor.written ++ [.schemaChange change]
    stats := { compactor.stats with
      recordsOut := compactor.stats.recordsOut + 1
      schemaChanges := compactor.stats.schemaChanges + 1 } }

def addEvent (timeline : Timeline) (stamp : Timestamp) (compactor : Compactor) (event : RowEvent) :
    Compactor × Except CompactionError Unit :=
  match timeline.tableInfo ⟨event.schema, event.table⟩ stamp with
  | .error cause => (compactor, .error (.catalog cause))
  | .ok info =>
      match NetEvent.ofRowEvent event info with
      | .error cause => (compactor, .error (.row cause))
      | .ok net =>
          match compactor.pending.apply net with
          | (pending, .error conflict) => ({ compactor with pending }, .error (.keyConflict conflict))
          | (pending, .ok _) =>
              ({ compactor with
                  pending
                  stats := { compactor.stats with eventsIn := compactor.stats.eventsIn + 1 } },
                .ok ())

/-- Takes in row events, up to the first that fails. -/
def addEvents (timeline : Timeline) (stamp : Timestamp) (compactor : Compactor) :
    List RowEvent → Compactor × Except CompactionError Unit
  | [] => (compactor, .ok ())
  | event :: rest =>
      match compactor.addEvent timeline stamp event with
      | (next, .ok ()) => next.addEvents timeline stamp rest
      | failed => failed

/-- Takes in a schema change: what is pending is written as of the time before it. -/
def addChange (timeline : Timeline) (compactor : Compactor) (change : SchemaChange) :
    Compactor × Except CompactionError Unit :=
  let flushed := compactor.flush (Timestamp.before change.stamp)
  match timeline.checkReplayed change.stamp with
  | .error cause => (flushed, .error (.catalog cause))
  | .ok () => (flushed.writeChange change, .ok ())

def countRecord (compactor : Compactor) : Compactor :=
  { compactor with
    stats := { compactor.stats with recordsIn := compactor.stats.recordsIn + 1 } }

def advance (compactor : Compactor) (stamp : Timestamp) : Compactor :=
  { compactor with latest := some (compactor.latest.elim stamp (max · stamp)) }

def apply (timeline : Timeline) (compactor : Compactor) (record : Record) :
    Compactor × Except CompactionError Unit :=
  let counted := compactor.countRecord
  let (next, result) :=
    match record with
    | .schemaChange change => counted.addChange timeline change
    | .rowBatch batch => counted.addEvents timeline batch.stamp batch.events
  match result with
  | .ok () => (next.advance record.stamp, .ok ())
  | .error error => (next, .error error)

/-- Ends a pass: what is pending is written as of the latest time. -/
def endPass (compactor : Compactor) : Compactor :=
  match compactor.latest with
  | some stamp => compactor.flush stamp
  | none => compactor

def finish (compactor : Compactor) : Compactor :=
  let ended := compactor.endPass
  { ended with
    stats := { ended.stats with invalidTransitions := ended.pending.invalidCount } }

/-- Takes in records, up to the first that fails. -/
def applyAll (timeline : Timeline) (compactor : Compactor) :
    List Record → Compactor × Except CompactionError Unit
  | [] => (compactor, .ok ())
  | record :: rest =>
      match compactor.apply timeline record with
      | (next, .ok ()) => next.applyAll timeline rest
      | failed => failed

/-- Takes in a pass. A pass that cannot be read to its end fails after its last good record. -/
def addPass (timeline : Timeline) (compactor : Compactor) (pass : LogContents) :
    Compactor × Except CompactionError Unit :=
  match compactor.applyAll timeline pass.records, pass.failure with
  | (next, .ok ()), none => (next.endPass, .ok ())
  | (next, .ok ()), some cause => (next, .error (.log cause))
  | failed, _ => failed

/-- Takes in passes, up to the first that fails. -/
def addPasses (timeline : Timeline) (compactor : Compactor) :
    List LogContents → Compactor × Except CompactionError Unit
  | [] => (compactor, .ok ())
  | pass :: rest =>
      match compactor.addPass timeline pass with
      | (next, .ok ()) => next.addPasses timeline rest
      | failed => failed

/-- Compacts the passes of a stream. What is pending at a failure is not written. -/
def compact (timeline : Timeline) (passes : List LogContents) :
    Compactor × Except CompactionError Unit :=
  match start.addPasses timeline passes with
  | (compactor, .ok ()) => (compactor.finish, .ok ())
  | failed => failed

end Compactor

end RowLog
