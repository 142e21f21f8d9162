import RowLog.Filter
import RowLog.Json.Fields
import RowLog.Log.Window
import RowLog.Text.Utf8

/-!
# Configurations

A `Config` holds all that a compaction has to know. It is stored as the text of a JSON record of
which every field may be missing. Main definitions: `Config.ofFile` and `Config.check`.
-/

namespace RowLog

open Json

/-- What a compaction has to know. -/
structure Config where
  dir : String
  /-- The directory that receives the compacted streams and the manifest. -/
  outputDir : String
  /-- The directory that receives a directory of working files for the time of the compaction. -/
  tempDir : String
  window : Window
  memoryBudget : Nat
  workers : Nat
  failFast : Bool
  /-- The file with the schema changes from before the log, if there is one. -/
  historyPath : Option String
  filter : FilterRules
  deriving DecidableEq

/-- What makes a configuration useless. -/
inductive ConfigFault
  | stopBeforeStart (window : Window)
  | noMemoryBudget
  | noWorkers
  deriving DecidableEq

def ConfigFault.message : ConfigFault → String
  | .stopBeforeStart window =>
      s!"stop_ts {window.stop} is before start_ts {window.start}"
  | .noMemoryBudget => "memory_budget must be positive"
  | .noWorkers => "workers must be positive"

/-- Why there is no configuration to work with. -/
inductive ConfigError
  | unreadable (path : String)
  | malformed (path : String)
  | invalid (fault : ConfigFault)
  deriving DecidableEq

/-- The wording of an error. What the system or the file says is not repeated. -/
def ConfigError.message : ConfigError → String
  | .unreadable path => s!"failed to read config {path}"
  | .malformed path => s!"malformed config {path}"
  | .invalid fault => s!"invalid config: {fault.message}"

namespace TableRule

def ofDocument? (document : Document) : Option TableRule := do
  let [some schema, some table] ← document.fields? ["schema", "table"] | none
  return ⟨← schema.text?, ← table.text?⟩

end TableRule

def fieldOr {α : Type} (absent : α) (value? : Document → Option α) : Option Document → Option α
  | some document => value? document
  | none => some absent

namespace FilterRules

def ofDocument? (document : Document) : Option FilterRules := do
  let [databases, tables, ignoredDatabases, ignoredTables] ←
    document.fields? ["do_dbs", "do_tables", "ignore_dbs", "ignore_tables"] | none
  let names := fieldOr [] (Document.list? Document.text?)
  let rules := fieldOr [] (Document.list? TableRule.ofDocument?)
  return ⟨← names databases, ← rules tables, ← names ignoredDatabases, ← rules ignoredTables⟩

end FilterRules

namespace Config

/-- The memory budget where none is given: two gibibytes. -/
def defaultMemoryBudget : Nat := 0x80000000

/-- The configuration where nothing is given, with the directory for temporary files. -/
def default (tempDir : String) : Config where
  dir := "."
  outputDir := "output"
  tempDir := tempDir
  window := ⟨0, 0⟩
  memoryBudget := defaultMemoryBudget
  workers := 1
  failFast := true
  historyPath := none
  filter := .none

/-- A text, or null for none. -/
def optionalText? (document : Document) : Option (Option String) :=
  if document.isNull then some none else document.text?.map some

/-- The configuration that a document writes; fields that are missing are taken from `absent`. -/
def ofDocument? (absent : Config) (document : Document) : Option Config := do
  let [dir, outputDir, tempDir, start, stop, memoryBudget, workers, failFast, historyPath, filter] ←
    document.fields?
      ["dir", "output_dir", "temp_dir", "start_ts", "stop_ts", "memory_budget", "workers",
        "fail_fast", "history_ddl", "filter"] | none
  return {
    dir := ← fieldOr absent.dir Document.text? dir
    outputDir := ← fieldOr absent.outputDir Document.text? outputDir
    tempDir := ← fieldOr absent.tempDir Document.text? tempDir
    window :=
      ⟨← fieldOr absent.window.start Document.int64? start,
        ← fieldOr absent.window.stop Document.int64? stop⟩
    memoryBudget := ← fieldOr absent.memoryBudget Document.nat? memoryBudget
    workers := ← fieldOr absent.workers Document.nat? workers
    failFast := ← fieldOr absent.failFast Document.bool? failFast
    historyPath := ← fieldOr absent.historyPath optionalText? historyPath
    filter := ← fieldOr absent.filter FilterRules.ofDocument? filter }

/-- The configuration in a file with the given bytes, unless it cannot be read. -/
def ofFile (absent : Config) (path : String) (bytes : Option (List UInt8)) :
    Except ConfigError Config :=
  match bytes with
  | none => .error (.unreadable path)
  | some bytes =>
      if (Utf8.decode? bytes).isNone then .error (.unreadable path)
      else
        match (Document.parse bytes).bind absent.ofDocument? with
        | some config => .ok config
        | none => .error (.malformed path)

/-- The first fault of a configuration, if it has one. -/
def fault? (config : Config) : Option ConfigFault :=
  if config.window.stop ≠ 0 ∧ config.window.stop < config.window.start then
    some (.stopBeforeStart config.window)
  else if config.memoryBudget = 0 then some .noMemoryBudget
  else if config.workers = 0 then some .noWorkers
  else none

def check (config : Config) : Except ConfigError Unit :=
  match config.fault? with
  | some fault => .error (.invalid fault)
  | none => .ok ()

end Config

end RowLog
