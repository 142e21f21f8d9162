import RowLog.Config
import RowLog.Retry
import RowLog.Run.Manifest
import RowLog.Run.Reduction
import RowLog.Storage

/-!
# Compactions

A compaction selects the log files that a window needs, splits their records by streams into working
files, replays all schema changes, compacts every stream into a file of its own and writes a
manifest. Main definitions: `openCatalog` and `compactLog`.
-/

namespace RowLog

/-- Why a compaction fails. -/
inductive RunError
  | config (cause : ConfigError)
  | filter (cause : FilterError)
  | catalog (cause : CatalogError)
  | selection (cause : LogError)
  | partition (cause : PartitionError)
  | notCreated (path : String)
  | notWritten (path : String)
  | stream (id : StreamId) (cause : CompactionError)
  deriving DecidableEq

/-- The wording of an error. What the system says is not repeated. -/
def RunError.message : RunError → String
  | .config cause => cause.message
  | .filter cause => cause.message
  | .catalog cause => s!"schema catalog: {cause.message}"
  | .selection cause => s!"input selection: {cause.message}"
  | .partition cause => cause.message
  | .notCreated path => s!"failed to create {path}"
  | .notWritten path => s!"failed to write {path}"
  | .stream id cause => s!"stream {id.display} failed: {cause.message}"

def historyAttempts : Nat := 5

/-- The pause after some attempts and one more, in milliseconds: every pause is twice as long as the
one before it. -/
def historyPause (made : Nat) : Nat := 100 <<< made

/-- The statements in a history file with the given bytes, unless it cannot be read. -/
def historyOfFile (path : String) (bytes : Option (List UInt8)) :
    Except CatalogError (List String) :=
  match bytes with
  | none => .error (.historyUnreadable path)
  | some bytes =>
      if (Utf8.decode? bytes).isNone then .error (.historyUnreadable path)
      else
        match (Json.Document.parse bytes).bind (Json.Document.list? Json.Document.text?) with
        | some statements => .ok statements
        | none => .error (.historyMalformed path)

def mayPass : CatalogError → Bool
  | .historyUnreadable _ => true
  | _ => false

section

variable {m : Type → Type} [Monad m]

/-- A result in a compaction, whose error becomes one of the compaction. -/
def demand {ε α : Type} (convert : ε → RunError) (result : Except ε α) : ExceptT RunError m α :=
  match result with
  | .ok value => return value
  | .error error => throw (convert error)

variable [Storage m]

/-- Does something that must not fail. -/
def insist (error : RunError) (action : m Bool) : ExceptT RunError m Unit := do
  if ← action then return else throw error

def readHistory (path : String) : m (Except CatalogError (List String)) := do
  let outcome ← retry historyAttempts mayPass (fun made => Storage.pause (historyPause made))
    fun _ => return historyOfFile path (← Storage.read path)
  return outcome.1

/-- The catalog with which a compaction starts: that of the history, if there is one. -/
def openCatalog (config : Config) : ExceptT RunError m Catalog := do
  demand .config config.check
  match config.historyPath with
  | none => return .empty
  | some path =>
      let statements ← (readHistory path : m _)
      demand .catalog (statements >>= Catalog.empty.executeAll)

def readLogFile (path : String) : m LogFile := do
  return ⟨path, ← Storage.read path⟩

def selectFiles (config : Config) : ExceptT RunError m Selection := do
  match ← (Storage.fileNames config.dir : m _) with
  | none => throw (.selection .inaccessible)
  | some names =>
      let files ← (logFileNames names).mapM fun name =>
        (readLogFile (Path.join config.dir name) : m LogFile)
      demand .selection (Selection.ofFiles config.window files)

/-- The files with the first `count` passes of a stream. -/
def passPaths (workDir : String) (stream : StreamId) (count : Nat) : List String :=
  (List.range count).map fun number => Path.join workDir (stream.passFile number)

/-- Writes the passes of a stream, up to the first that cannot be written. -/
def writePasses (stream : StreamId) : List (String × List UInt8) → ExceptT RunError m Unit
  | [] => return
  | (path, bytes) :: rest => do
      insist (.partition (.unwritable stream .inaccessible)) (Storage.write path bytes)
      writePasses stream rest

def writeStreams (workDir : String) (partition : Partition) :
    List StreamId → ExceptT RunError m Unit
  | [] => return
  | stream :: rest => do
      let passes := partition.passBytes stream
      writePasses stream ((passPaths workDir stream passes.length).zip passes)
      writeStreams workDir partition rest

/-- Compacts a stream out of the files with its passes. The output file is there from the start and
holds what was written up to a failure. -/
def compactStream (config : Config) (timeline : Timeline) (stream : StreamId)
    (passes : List String) : m (Except CompactionError StreamOutput) := do
  let file := stream.outputFile config.outputDir
  if ← Storage.write file [] then
    let contents ← passes.mapM fun path => return (← readLogFile path).contents
    match Compactor.compact timeline contents with
    | (compactor, .error error) =>
        let _ ← Storage.write file (logBytes compactor.written)
        return .error error
    | (compactor, .ok ()) =>
        if ← Storage.write file (logBytes compactor.written) then
          return .ok ⟨stream, file, passes.length, compactor.stats⟩
        else return .error (.log .inaccessible)
  else return .error (.log .inaccessible)

/-- Splits the records of the selected files and compacts every stream. -/
def compactSelection (config : Config) (catalog : Catalog) (filter : Filter) (workDir : String)
    (selection : Selection) :
    ExceptT RunError m (PartitionStats × Reduction CompactionError StreamOutput) := do
  let scope : Scope := ⟨config.window, filter, config.memoryBudget⟩
  let partition ← demand .partition (Partition.ofSelection scope selection)
  writeStreams workDir partition partition.streams.keys
  let timeline := Timeline.build catalog partition.schemaChanges config.window.start
  insist (.notCreated config.outputDir) (Storage.createDirectory config.outputDir)
  let work (stream : StreamId) : m (Except CompactionError StreamOutput) :=
    compactStream config timeline stream
      (passPaths workDir stream (partition.passesOf stream).toList.length)
  let reduction ← (reduce work config.failFast partition.streams.keys : m _)
  return (partition.stats, reduction)

def Manifest.ofReduction (config : Config) (runId : String) (selection : Selection)
    (stats : PartitionStats) (reduction : Reduction CompactionError StreamOutput) : Manifest where
  runId := runId
  window := config.window
  inputFiles := selection.files.map LogFile.path
  inputSize := selection.size
  historyFiles := selection.history.map LogFile.path
  partition := stats
  outputs := reduction.results
  failures := reduction.failures
  skipped := reduction.skipped

/-- A manifest as the result of a compaction: the first stream that failed makes it a failure. -/
def Manifest.verdict (manifest : Manifest) : Except RunError Manifest :=
  match manifest.failures with
  | [] => .ok manifest
  | (stream, cause) :: _ => .error (.stream stream cause)

/-- Writes a manifest and answers with it, unless a stream has failed. -/
def publish (config : Config) (manifest : Manifest) : ExceptT RunError m Manifest := do
  let path := Path.join config.outputDir manifestFileName
  insist (.notWritten path) (Storage.write path (Utf8.encodeChars manifest.chars))
  demand id manifest.verdict

/-- Compacts a log. The working files are removed in any case, and the manifest is written even if
streams have failed. -/
def compactLog (config : Config) (catalog : Catalog) (runId : String) :
    ExceptT RunError m Manifest := do
  demand .config config.check
  let selection ← selectFiles config
  let filter ← demand .filter (Filter.ofRules config.filter)
  let workDir := Path.join config.tempDir runId
  insist (.notCreated workDir) (Storage.createDirectory workDir)
  let result ← ExceptT.lift (compactSelection config catalog filter workDir selection).run
  (Storage.remove workDir : m Unit)
  let (stats, reduction) ← demand id result
  publish config (Manifest.ofReduction config runId selection stats reduction)

end

end RowLog
