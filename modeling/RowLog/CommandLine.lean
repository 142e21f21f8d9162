import RowLog.Run.Compaction

/-!
# The command line

The arguments of the program give the fields of a configuration, or override those of a file. Main
definitions: `Options.ofArguments`, which reads the arguments, and `runProgram`, which does what they
ask for.
-/

namespace RowLog

/-- How messages about the progress are written. -/
inductive LogFormat
  | pretty
  | json
  deriving DecidableEq

def LogFormat.ofWord? : String → Option LogFormat
  | "pretty" => some .pretty
  | "json" => some .json
  | _ => none

/-- What the arguments ask for; none for a flag that is not given. -/
structure Options where
  configPath : Option String
  dir : Option String
  outputDir : Option String
  tempDir : Option String
  start : Option Timestamp
  stop : Option Timestamp
  memoryBudget : Option Nat
  workers : Option Nat
  historyPath : Option String
  logFormat : Option LogFormat
  deriving DecidableEq

/-- What becomes of arguments that cannot be followed. -/
inductive Refusal
  | help
  | usage
  deriving DecidableEq

def signedNumber? (text : String) : Option Int :=
  match text.toList with
  | '-' :: digits => (number? digits).map fun value => -(value : Int)
  | '+' :: digits => (number? digits).map Int.ofNat
  | digits => (number? digits).map Int.ofNat
where
  number? (digits : List Char) : Option Nat :=
    if digits.isEmpty || !digits.all Char.isDigit then none
    else some (digits.foldl (fun value digit => value * 10 + (digit.toNat - 48)) 0)

def stampOfText? (text : String) : Option Timestamp := do
  let value ← signedNumber? text
  if -0x8000000000000000 ≤ value ∧ value < 0x8000000000000000 then some (Int64.ofInt value) else none

/-- A number below `2 ^ 64` in an argument, without a minus sign. -/
def countOfText? (text : String) : Option Nat := do
  let value ← signedNumber? text
  if text.toList.head? ≠ some '-' ∧ value < 0x10000000000000000 then some value.toNat else none

/-- A path in an argument, which must not be empty. -/
def pathOfText? (text : String) : Option String :=
  if text.isEmpty then none else some text

namespace Options

def none : Options := ⟨.none, .none, .none, .none, .none, .none, .none, .none, .none, .none⟩

/-- The value for a flag that must not be given twice. -/
def once {α : Type} (given : Option α) (value : Option α) : Option (Option α) :=
  match given, value with
  | .none, some value => some (some value)
  | _, _ => .none

def set? (options : Options) (flag value : String) : Option Options := do
  match flag with
  | "config" => return { options with configPath := ← once options.configPath (pathOfText? value) }
  | "dir" => return { options with dir := ← once options.dir (pathOfText? value) }
  | "output-dir" => return { options with outputDir := ← once options.outputDir (pathOfText? value) }
  | "temp-dir" => return { options with tempDir := ← once options.tempDir (pathOfText? value) }
  | "start-ts" => return { options with start := ← once options.start (stampOfText? value) }
  | "stop-ts" => return { options with stop := ← once options.stop (stampOfText? value) }
  | "memory-budget" =>
      return { options with memoryBudget := ← once options.memoryBudget (countOfText? value) }
  | "workers" => return { options with workers := ← once options.workers (countOfText? value) }
  | "history-ddl" =>
      return { options with historyPath := ← once options.historyPath (pathOfText? value) }
  | "log-format" =>
      return { options with logFormat := ← once options.logFormat (LogFormat.ofWord? value) }
  | _ => .none

/-- Whether an argument is a flag and so cannot be the value of the flag before it. A single hyphen
is a value. -/
def isFlag (argument : String) : Bool :=
  match argument.toList with
  | '-' :: _ :: _ => true
  | _ => false

/-- The flag and the value of an argument that holds both, without the hyphens. -/
def splitAtEquals? (flag : List Char) : Option (String × String) :=
  match flag.dropWhile (· != '=') with
  | '=' :: value => some (String.ofList (flag.takeWhile (· != '=')), String.ofList value)
  | _ => .none

/-- Takes in a flag with its value, or refuses the arguments. -/
def setOrRefuse (options : Options) (flag value : String) : Except Refusal Options :=
  match options.set? flag value with
  | some options => .ok options
  | .none => .error .usage

/-- Takes in arguments one after the other. After an argument of two hyphens none may follow. -/
def addArguments (options : Options) : List String → Except Refusal Options
  | [] => .ok options
  | argument :: rest =>
      match argument.toList with
      | '-' :: 'h' :: _ => .error .help
      | ['-', '-'] => if rest.isEmpty then .ok options else .error .usage
      | '-' :: '-' :: flag =>
          match splitAtEquals? flag with
          | some (flag, value) => do (← options.setOrRefuse flag value).addArguments rest
          | .none =>
              if String.ofList flag = "help" then .error .help
              else
                match rest with
                | [] => .error .usage
                | value :: rest =>
                    if isFlag value then .error .usage
                    else do (← options.setOrRefuse (String.ofList flag) value).addArguments rest
      | _ => .error .usage

def ofArguments (arguments : List String) : Except Refusal Options :=
  none.addArguments arguments

def override (options : Options) (config : Config) : Config where
  dir := options.dir.getD config.dir
  outputDir := options.outputDir.getD config.outputDir
  tempDir := options.tempDir.getD config.tempDir
  window := ⟨options.start.getD config.window.start, options.stop.getD config.window.stop⟩
  memoryBudget := options.memoryBudget.getD config.memoryBudget
  workers := options.workers.getD config.workers
  failFast := config.failFast
  historyPath := options.historyPath <|> config.historyPath
  filter := config.filter

def format (options : Options) : LogFormat :=
  options.logFormat.getD .pretty

end Options

/-- What the program leaves behind when it ends. -/
structure ProgramOutcome where
  code : Nat
  output : String
  errors : String
  deriving DecidableEq

namespace ProgramOutcome

def failed (context : String) (cause : String) : ProgramOutcome :=
  ⟨1, "", s!"Error: {context}\n\nCaused by:\n    {cause}\n"⟩

def refused (message : String) : ProgramOutcome :=
  ⟨1, "", s!"Error: {message}\n"⟩

end ProgramOutcome

def helpText : String :=
  String.intercalate "\n"
    ["Point-in-time recovery log compaction", "", "Usage: pitr [OPTIONS]", "", "Options:",
      "      --config <CONFIG>                Path to a JSON config file; flags override its values",
      "      --dir <DIR>                      Directory holding the input log files",
      "      --output-dir <OUTPUT_DIR>        Directory receiving the compacted streams",
      "      --temp-dir <TEMP_DIR>            Parent directory of the working files",
      "      --start-ts <START_TS>            First commit ts of the window",
      "      --stop-ts <STOP_TS>              Last commit ts of the window (0 = unbounded)",
      "      --memory-budget <MEMORY_BUDGET>  Bytes of row events one table pass may hold",
      "      --workers <WORKERS>              Tables compacted in parallel",
      "      --history-ddl <HISTORY_DDL>      JSON array of DDL statements replayed before the run",
      "      --log-format <LOG_FORMAT>        [default: pretty] [possible values: pretty, json]",
      "  -h, --help                           Print help", ""]

section

variable {m : Type → Type} [Monad m] [Storage m]

/-- The configuration that options ask for, where `base` is the one for which nothing is given. -/
def configOfOptions (base : Config) (options : Options) : m (Except ConfigError Config) := do
  match options.configPath with
  | none => return .ok (options.override base)
  | some path => return (Config.ofFile base path (← Storage.read path)).map options.override

def runConfig (config : Config) (runId : String) : m ProgramOutcome := do
  match ← (openCatalog config : ExceptT RunError m _).run with
  | .error error => return .failed "failed to set up pitr run" error.message
  | .ok catalog =>
      match ← (compactLog config catalog runId : ExceptT RunError m _).run with
      | .error error => return .failed "pitr run failed" error.message
      | .ok manifest => return ⟨0, String.ofList manifest.chars ++ "\n", ""⟩

def runProgram (base : Config) (runId : String) (arguments : List String) : m ProgramOutcome := do
  match Options.ofArguments arguments with
  | .error .help => return ⟨0, helpText, ""⟩
  | .error .usage => return ⟨2, "", "error: invalid arguments\n\n" ++ helpText⟩
  | .ok options =>
      match ← configOfOptions base options with
      | .error error => return .refused error.message
      | .ok config => runConfig config runId

end

end RowLog
