import RowLog.Filter
import RowLog.Schema.Route
import RowLog.Stream.Basic
import RowLog.Stream.Passes
import RowLog.Stream.WorkingFiles

/-!
# Partitions

The records of a log are split by the streams that they belong to: a row batch into one batch for
each table that it changes, and a schema change into the statements for each table or database.
Only what lies in the window and passes the filter is kept, but all schema changes up to the end of
the window are remembered, as they say what the tables look like. What is kept goes to the working
files of the streams at once. Main definitions: `Partition.addFile` and `Partition.addHistory`.
-/

namespace RowLog

/-- What a partition keeps of a log. -/
structure Scope where
  window : Window
  filter : Filter
  budget : Nat

/-- What has been counted while a log was split. -/
structure PartitionStats where
  recordsRead : Nat
  /-- Records, and parts of records, that lie outside the window or do not pass the filter. -/
  dropped : Nat
  skippedChanges : Nat
  historyChanges : Nat
  deriving DecidableEq

def PartitionStats.zero : PartitionStats := ⟨0, 0, 0, 0⟩

/-- Why a log cannot be split. -/
inductive PartitionError
  | unreadable (path : String) (cause : LogError)
  | unwritable (stream : StreamId) (cause : LogError)
  deriving DecidableEq

def PartitionError.message : PartitionError → String
  | .unreadable path cause => s!"failed to read {path}: {cause.message}"
  | .unwritable stream cause =>
      s!"failed to write working file of {stream.display}: {cause.message}"

/-- A log that is split by its streams. -/
structure Partition where
  streams : Std.ExtTreeMap StreamId Passes StreamId.compare
  working : WorkingFiles
  /-- The schema changes up to the end of the window, in the order in which they were read. -/
  changes : List SchemaChange
  stats : PartitionStats

namespace Partition

def empty : Partition := ⟨∅, .empty, [], .zero⟩

def passesOf (partition : Partition) (stream : StreamId) : Passes :=
  partition.streams.getD stream .empty

def append (budget : Nat) (partition : Partition) (stream : StreamId) (record : Record) :
    Partition :=
  let passes := (partition.passesOf stream).append budget record
  { partition with
    streams := partition.streams.insert stream passes
    working :=
      partition.working.append stream passes.finished.length (passes.current.length = 1)
        record.encode }

def drop (partition : Partition) (count : Nat) : Partition :=
  { partition with
    stats := { partition.stats with dropped := partition.stats.dropped + count } }

def skipChange (partition : Partition) : Partition :=
  { partition with
    stats := { partition.stats with skippedChanges := partition.stats.skippedChanges + 1 } }

def countHistory (partition : Partition) : Partition :=
  { partition with
    stats := { partition.stats with historyChanges := partition.stats.historyChanges + 1 } }

def countRead (partition : Partition) : Partition :=
  { partition with
    stats := { partition.stats with recordsRead := partition.stats.recordsRead + 1 } }

def remember (partition : Partition) (change : SchemaChange) : Partition :=
  { partition with changes := partition.changes ++ [change] }

def addRouted (scope : Scope) (stamp : Timestamp) (partition : Partition)
    (routed : Schema.RoutedChange) : Partition :=
  if scope.filter.allows routed.schema routed.table then
    partition.append scope.budget ⟨routed.schema, routed.table⟩
      (.schemaChange ⟨stamp, routed.statement⟩)
  else partition.drop 1

def addChange (scope : Scope) (partition : Partition) (change : SchemaChange) : Partition :=
  if scope.window.endsBefore change.stamp then partition.drop 1
  else
    match Schema.route change.statement with
    | .error _ => partition.skipChange
    | .ok routes =>
        let remembered := partition.remember change
        if change.stamp < scope.window.start then remembered.countHistory
        else routes.foldl (addRouted scope change.stamp) remembered

def streamOf (event : RowEvent) : StreamId :=
  ⟨event.schema, some event.table⟩

/-- Adds those of some events of one commit that belong to a stream. -/
def addEvents (scope : Scope) (stamp : Timestamp) (events : List RowEvent) (partition : Partition)
    (stream : StreamId) : Partition :=
  partition.append scope.budget stream
    (.rowBatch ⟨stamp, events.filter fun event => streamOf event = stream⟩)

def addBatch (scope : Scope) (partition : Partition) (batch : RowBatch) : Partition :=
  if scope.window.contains batch.stamp then
    let (kept, dropped) := batch.events.partition fun event =>
      scope.filter.allows event.schema (some event.table)
    (kept.map streamOf).eraseDups.foldl (addEvents scope batch.stamp kept)
      (partition.drop dropped.length)
  else partition.drop 1

def addRecord (scope : Scope) (partition : Partition) : Record → Partition
  | .schemaChange change => partition.countRead.addChange scope change
  | .rowBatch batch => partition.countRead.addBatch scope batch

def addOldRecord (scope : Scope) (partition : Partition) : Record → Partition
  | .schemaChange change => partition.countRead.addChange scope change
  | .rowBatch _ => partition.countRead.drop 1

/-- Adds the records of a file, up to the first that cannot be read. -/
def addFile (scope : Scope) (partition : Partition) (file : LogFile) :
    Partition × Except PartitionError Unit :=
  let next := file.contents.records.foldl (addRecord scope) partition
  match file.contents.failure with
  | none => (next, .ok ())
  | some cause => (next, .error (.unreadable file.path cause))

/-- Adds the records of a file that ends before the window, up to the first that cannot be read,
which is counted as well. -/
def addHistory (scope : Scope) (partition : Partition) (file : LogFile) :
    Partition × Except PartitionError Unit :=
  let next := file.contents.records.foldl (addOldRecord scope) partition
  match file.contents.failure with
  | none => (next, .ok ())
  | some cause => (next.countRead, .error (.unreadable file.path cause))

/-- The bytes of the working files of a stream, pass by pass, when all are complete. -/
def passBytes (partition : Partition) (stream : StreamId) : List (List UInt8) :=
  (List.range (partition.passesOf stream).toList.length).map fun pass =>
    partition.working.finish.read (stream.passFile pass)

def schemaChanges (partition : Partition) : List SchemaChange :=
  partition.changes.mergeSort fun first second => first.stamp ≤ second.stamp

/-- The partition of the files that a window needs, unless one of them cannot be read. -/
def ofSelection (scope : Scope) (selection : Selection) : Except PartitionError Partition := do
  let old ← selection.history.foldlM (fun partition file => settle (partition.addHistory scope file))
    empty
  selection.files.foldlM (fun partition file => settle (partition.addFile scope file)) old
where
  settle : Partition × Except PartitionError Unit → Except PartitionError Partition
    | (partition, .ok ()) => .ok partition
    | (_, .error error) => .error error

end Partition

end RowLog
