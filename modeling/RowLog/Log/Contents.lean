import RowLog.Log.Frame
import RowLog.Log.RecordCodec

/-!
# The records of a log file

Reading a file gives its records up to the first one that cannot be read, and what was wrong with
that one.
-/

namespace RowLog

/-- Why a log file cannot be read or written. -/
inductive LogError
  /-- The file is missing, or something else is in its place. -/
  | inaccessible
  | corrupt (path : String) (reason : FrameError)
  | malformedRecord
  deriving DecidableEq

/-- The wording of an error. What the system or the record says is not repeated. -/
def LogError.message : LogError → String
  | .inaccessible => "log io error"
  | .corrupt path reason => s!"corrupt log file {path}: {reason.message}"
  | .malformedRecord => "malformed log record"

/-- The records that can be read from a log file, and what stops the reading before its end. -/
structure LogContents where
  records : List Record
  failure : Option LogError
  deriving DecidableEq

namespace LogContents

/-- The records of payloads, up to the first payload that is none; `failure` is what comes after the
payloads. The records before are given last first. -/
def ofPayloads (failure : Option LogError) (before : List Record) :
    List (List UInt8) → LogContents
  | [] => ⟨before.reverse, failure⟩
  | payload :: rest =>
      match Record.decode? payload with
      | some record => ofPayloads failure (record :: before) rest
      | none => ⟨before.reverse, some .malformedRecord⟩

def ofBytes (path : String) (bytes : List UInt8) : LogContents :=
  let (payloads, damage) := readFrames bytes
  ofPayloads (damage.map (.corrupt path)) [] payloads

end LogContents

def logBytes (records : List Record) : List UInt8 :=
  frames (records.map Record.encode)

end RowLog
