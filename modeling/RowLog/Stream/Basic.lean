import Std.Data.ExtTreeMap
import RowLog.Log.Selection
import RowLog.Path
import RowLog.Text.Utf8

/-!
# Streams

The records of a window are split into streams, one for each table and one for each database, which
holds the changes of the database itself. Here are the names of streams, their order, and the files
that belong to them.
-/

namespace RowLog

/-- The table, or the database, that a stream belongs to. -/
structure StreamId where
  schema : String
  /-- None for the stream of a database. -/
  table : Option String
  deriving DecidableEq

/-- Whether a byte stands for itself in a name that is safe as the name of a file. -/
def isSafeByte (byte : UInt8) : Bool :=
  (97 ≤ byte && byte ≤ 122) || (65 ≤ byte && byte ≤ 90) || (48 ≤ byte && byte ≤ 57) ||
    byte == 95 || byte == 36 || byte == 45

/-- The hexadecimal digit of a value below sixteen, a capital letter from ten on. -/
def capitalDigit (value : Nat) : Char :=
  (Nat.digitChar value).toUpper

/-- How a byte is written in a name that is safe as the name of a file. -/
def escapeByte (byte : UInt8) : List Char :=
  if isSafeByte byte then [Char.ofNat byte.toNat]
  else ['%', capitalDigit (byte.toNat / 16), capitalDigit (byte.toNat % 16)]

/-- A name in a form that is safe as the name of a file: of its bytes, all but ASCII letters, digits
and `_`, `$`, `-` become percent signs with two hexadecimal digits. -/
def escapeName (name : String) : String :=
  String.ofList ((Utf8.encode name).flatMap escapeByte)

def passFileName (number : Nat) : String :=
  "pass-" ++ paddedNumber 6 number ++ ".log"

namespace StreamId

def display (stream : StreamId) : String :=
  match stream.table with
  | some table => stream.schema ++ "." ++ table
  | none => stream.schema

def workDirName (stream : StreamId) : String :=
  match stream.table with
  | some table => escapeName stream.schema ++ "." ++ escapeName table
  | none => escapeName stream.schema

/-- The directory below `root` that receives the output of a stream. -/
def outputDir (root : String) (stream : StreamId) : String :=
  let directory := Path.join root (escapeName stream.schema)
  match stream.table with
  | some table => Path.join directory (escapeName table)
  | none => directory

def outputFile (root : String) (stream : StreamId) : String :=
  Path.join (stream.outputDir root) (logFileName 0)

/-- The file with a pass of a stream, below the directory of all working files. -/
def passFile (stream : StreamId) (number : Nat) : String :=
  Path.join stream.workDirName (passFileName number)

/-- The order of streams: by database, and for one database its own stream first and then those of
its tables by name. -/
def compare : StreamId → StreamId → Ordering :=
  compareLex (compareOn schema) (compareOn table)

instance : Std.TransCmp compare :=
  inferInstanceAs (Std.TransCmp (compareLex (compareOn schema) (compareOn table)))

instance : Std.LawfulEqCmp compare where
  eq_of_compare {left right} equal := by
    simp only [compare, compareLex_eq_eq, compareOn, Std.compare_eq_iff_eq] at equal
    cases left
    cases right
    simp_all

end StreamId

end RowLog
