import RowLog.Compactor
import RowLog.Json.Outline
import RowLog.Partition

/-!
# Manifests

A manifest says what a compaction has read and written and which streams have failed. It is stored
beside the compacted streams as the text of a JSON record.
-/

namespace RowLog

open Json

/-- A stream that has been compacted. -/
structure StreamOutput where
  stream : StreamId
  file : String
  passes : Nat
  stats : CompactionStats
  deriving DecidableEq

/-- The account of a compaction. -/
structure Manifest where
  runId : String
  window : Window
  inputFiles : List String
  inputSize : Nat
  historyFiles : List String
  partition : PartitionStats
  outputs : List StreamOutput
  failures : List (StreamId × CompactionError)
  /-- The streams that were not started. -/
  skipped : List StreamId

def manifestFileName : String := "manifest.json"

namespace StreamId

def outline (stream : StreamId) : Outline :=
  .object
    [("schema", .text stream.schema), ("table", (stream.table.map Outline.text).getD .null)]

end StreamId

namespace PartitionStats

def outline (stats : PartitionStats) : Outline :=
  .object
    [("records_read", .number stats.recordsRead), ("dropped", .number stats.dropped),
      ("skipped_ddl", .number stats.skippedChanges), ("history_ddl", .number stats.historyChanges)]

end PartitionStats

namespace CompactionStats

def outline (stats : CompactionStats) : Outline :=
  .object
    [("records_in", .number stats.recordsIn), ("events_in", .number stats.eventsIn),
      ("records_out", .number stats.recordsOut), ("events_out", .number stats.eventsOut),
      ("ddl", .number stats.schemaChanges),
      ("invalid_transitions", .number stats.invalidTransitions)]

end CompactionStats

namespace StreamOutput

def outline (output : StreamOutput) : Outline :=
  .object
    [("stream", output.stream.outline), ("file", .text output.file),
      ("passes", .number output.passes), ("stats", output.stats.outline)]

end StreamOutput

namespace Manifest

def isComplete (manifest : Manifest) : Bool :=
  manifest.failures.isEmpty && manifest.skipped.isEmpty

def failureOutline (failure : StreamId × CompactionError) : Outline :=
  .object [("stream", failure.1.outline), ("error", .text failure.2.message)]

def outline (manifest : Manifest) : Outline :=
  .object
    [("run_id", .text manifest.runId), ("start_ts", .number manifest.window.start.toInt),
      ("stop_ts", .number manifest.window.stop.toInt),
      ("input_files", .array (manifest.inputFiles.map Outline.text)),
      ("input_bytes", .number manifest.inputSize),
      ("history_files", .array (manifest.historyFiles.map Outline.text)),
      ("partition", manifest.partition.outline),
      ("tables", .array (manifest.outputs.map StreamOutput.outline)),
      ("failed", .array (manifest.failures.map failureOutline)),
      ("skipped", .array (manifest.skipped.map StreamId.outline))]

def chars (manifest : Manifest) : List Char :=
  manifest.outline.chars

end Manifest

end RowLog
