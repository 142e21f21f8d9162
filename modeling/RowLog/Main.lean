import RowLog.CommandLine

/-!
# The program

The files of the system as a `Storage`, and the program itself.
-/

namespace RowLog

/-- What an action comes to, unless it fails. -/
def ifPossible {α : Type} (action : IO α) : IO (Option α) := do
  try
    return some (← action)
  catch _ => return none

def isPossible (action : IO Unit) : IO Bool := do
  return (← ifPossible action).isSome

def entryAt (path : String) : IO.FS.DirEntry := ⟨path, ""⟩

def listFiles (path : String) : IO (List String) := do
  let mut names := []
  for entry in ← (entryAt path).root.readDir do
    if (← entry.path.metadata).type == .file then
      names := entry.fileName :: names
  return names

/-- Writes a file, with the directories on the way to it. -/
def writeFile (path : String) (bytes : List UInt8) : IO Unit := do
  if let some parent := (entryAt path).root.parent then
    IO.FS.createDirAll parent
  IO.FS.writeBinFile path bytes.toByteArray

instance : Storage IO where
  fileNames path := ifPossible (listFiles path)
  read path := ifPossible (return (← IO.FS.readBinFile path).toList)
  createDirectory path := isPossible (IO.FS.createDirAll path)
  write path bytes := isPossible (writeFile path bytes)
  remove path := do
    let _ ← isPossible (IO.FS.removeDirAll path)
  pause milliseconds := IO.sleep milliseconds.toUInt32

/-- A name that no other compaction has: 32 random hexadecimal digits, of which two say how the name
came about, in five groups. -/
def randomName : IO String := do
  let bytes := (← IO.getRandomBytes 16).toList
  let marked := bytes.mapIdx fun index byte =>
    if index = 6 then (byte &&& 0x0f) ||| 0x40
    else if index = 8 then (byte &&& 0x3f) ||| 0x80
    else byte
  let digits := hexBytes marked
  let groups := [(0, 8), (8, 4), (12, 4), (16, 4), (20, 12)].map fun (start, count) =>
    String.ofList ((digits.drop start).take count)
  return "-".intercalate groups

def systemTempDir : IO String := do
  return (← IO.getEnv "TMPDIR").getD "/tmp"

end RowLog

def main (arguments : List String) : IO UInt32 := do
  let base := RowLog.Config.default (← RowLog.systemTempDir)
  let name ← RowLog.randomName
  let outcome ← (RowLog.runProgram base name arguments : IO RowLog.ProgramOutcome)
  IO.print outcome.output
  IO.eprint outcome.errors
  return outcome.code.toUInt32
