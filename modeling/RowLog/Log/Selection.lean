import RowLog.Log.Contents
import RowLog.Log.Window

/-!
# The log files of a directory

Of the files of a directory, those whose names say so are log files. A `Selection` is what a window
needs of them: the files that may hold records of the window, and those that end before it, of which
only the schema changes matter. Files are read in the order of their first records.
-/

namespace RowLog

/-- A number with zeros before it, up to a given number of digits. -/
def paddedNumber (width number : Nat) : String :=
  String.ofList ((Nat.toDigits 10 number).leftpad width '0')

def logFileMark : String := "binlog-"

def logFileName (number : Nat) : String :=
  logFileMark ++ paddedNumber 16 number

def isLogFileName (name : String) : Bool :=
  logFileMark.toList.isPrefixOf name.toList

/-- The names of log files among those of a directory, in order. -/
def logFileNames (names : List String) : List String :=
  (names.filter isLogFileName).mergeSort (· ≤ ·)

/-- A log file with its bytes, unless it cannot be read. -/
structure LogFile where
  path : String
  bytes : Option (List UInt8)
  deriving DecidableEq

namespace LogFile

def contents (file : LogFile) : LogContents :=
  match file.bytes with
  | some bytes => .ofBytes file.path bytes
  | none => ⟨[], some .inaccessible⟩

def size (file : LogFile) : Nat :=
  (file.bytes.getD []).length

/-- The time of the first record of a file, if it holds any. -/
def firstStamp (file : LogFile) : Except LogError (Option Timestamp) :=
  match file.contents with
  | ⟨record :: _, _⟩ => .ok (some record.stamp)
  | ⟨[], some error⟩ => .error error
  | ⟨[], none⟩ => .ok none

end LogFile

/-- A log file with the time of its first record. -/
structure DatedFile where
  stamp : Timestamp
  file : LogFile
  deriving DecidableEq

namespace DatedFile

/-- Whether one file is read no later than another: the earlier one comes first, and of two files
from the same time the one whose path comes first. -/
def comesBefore (first second : DatedFile) : Bool :=
  first.stamp < second.stamp || (first.stamp == second.stamp && first.file.path ≤ second.file.path)

def ofFiles : List LogFile → Except LogError (List DatedFile)
  | [] => .ok []
  | file :: rest => do
      match ← file.firstStamp with
      | some stamp => return ⟨stamp, file⟩ :: (← ofFiles rest)
      | none => ofFiles rest

end DatedFile

/-- What a window needs of some log files. -/
structure Selection where
  files : List LogFile
  history : List LogFile
  deriving DecidableEq

namespace Selection

def size (selection : Selection) : Nat :=
  selection.files.foldl (fun total file => total + file.size) 0

/-- Sorts out files that are in the order of their first records. A file ends before the window if
the next one does not start after the window does. -/
def ofDated (window : Window) : List DatedFile → Selection
  | [] => ⟨[], []⟩
  | first :: rest =>
      if window.endsBefore first.stamp then ⟨[], []⟩
      else
        let later := ofDated window rest
        if rest.head?.any fun next => next.stamp ≤ window.start then
          { later with history := first.file :: later.history }
        else { later with files := first.file :: later.files }

def ofFiles (window : Window) (files : List LogFile) : Except LogError Selection := do
  return ofDated window ((← DatedFile.ofFiles files).mergeSort DatedFile.comesBefore)

end Selection

end RowLog
