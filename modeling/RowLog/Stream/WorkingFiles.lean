import RowLog.Log.Frame
import RowLog.Path
import RowLog.Stream.Basic

/-!
# Working files

While a log is split, every pass of a stream is written to a working file. A `FileWriter` collects
what it is given and hands it to its file in blocks, so the file is complete only when the writer
is closed. A file is known by the names along its path: two paths that are different texts may lead
to one file, and then every writer of that file still writes at its own place.
-/

namespace RowLog

/-- The number of bytes that a writer collects before it hands them to its file. -/
def blockSize : Nat := 8192

/-- A file after bytes are written to it from some place on. A gap before the place is filled with
zeros. -/
def overwrite (file : List UInt8) (place : Nat) (bytes : List UInt8) : List UInt8 :=
  if bytes.isEmpty then file
  else
    file.take place ++ List.replicate (place - file.length) 0 ++ bytes ++
      file.drop (place + bytes.length)

/-- Files by the names along their paths. -/
abbrev FileContents := Std.ExtTreeMap (List String) (List UInt8)

/-- One that writes to a file from its start. -/
structure FileWriter where
  /-- The names along the path of the file. -/
  names : List String
  /-- How many bytes the file has been handed. -/
  place : Nat
  /-- What the file has yet to be handed. -/
  collected : List UInt8
  deriving DecidableEq

namespace FileWriter

def hand (writer : FileWriter) (files : FileContents) (bytes : List UInt8) :
    FileWriter × FileContents :=
  ({ writer with place := writer.place + bytes.length },
    files.insert writer.names (overwrite (files.getD writer.names []) writer.place bytes))

def flush (writer : FileWriter) (files : FileContents) : FileWriter × FileContents :=
  let (next, files) := writer.hand files writer.collected
  ({ next with collected := [] }, files)

/-- Makes room for bytes, if they do not fit into the block that is being collected. -/
def makeRoom (writer : FileWriter) (files : FileContents) (size : Nat) :
    FileWriter × FileContents :=
  if blockSize < writer.collected.length + size then writer.flush files else (writer, files)

/-- Takes bytes. Those that fill a block by themselves are not collected. -/
def put (writer : FileWriter) (files : FileContents) (bytes : List UInt8) :
    FileWriter × FileContents :=
  let (writer, files) := writer.makeRoom files bytes.length
  if blockSize ≤ bytes.length then writer.hand files bytes
  else ({ writer with collected := writer.collected ++ bytes }, files)

/-- Takes the frame of a payload: first the header and then the payload. -/
def putFrame (writer : FileWriter) (files : FileContents) (payload : List UInt8) :
    FileWriter × FileContents :=
  let bytes := frame payload
  let (writer, files) := writer.put files (bytes.take frameHeaderSize)
  writer.put files (bytes.drop frameHeaderSize)

end FileWriter

/-- The files that have been written so far, and the writers of those that are not complete. -/
structure WorkingFiles where
  files : FileContents
  writers : Std.ExtTreeMap StreamId FileWriter StreamId.compare

namespace WorkingFiles

def empty : WorkingFiles := ⟨∅, ∅⟩

def close (working : WorkingFiles) (stream : StreamId) : WorkingFiles :=
  match working.writers[stream]? with
  | some writer => ⟨(writer.flush working.files).2, working.writers.erase stream⟩
  | none => working

/-- Starts a file of a stream, which is empty whatever it held before. -/
def create (working : WorkingFiles) (stream : StreamId) (path : String) : WorkingFiles :=
  let names := Path.names path
  ⟨working.files.insert names [], working.writers.insert stream ⟨names, 0, []⟩⟩

def write (working : WorkingFiles) (stream : StreamId) (payload : List UInt8) : WorkingFiles :=
  match working.writers[stream]? with
  | some writer =>
      let (writer, files) := writer.putFrame working.files payload
      ⟨files, working.writers.insert stream writer⟩
  | none => working

/-- Writes a payload to the file of a pass, which is started with the first payload of the pass. -/
def append (working : WorkingFiles) (stream : StreamId) (pass : Nat) (isFirst : Bool)
    (payload : List UInt8) : WorkingFiles :=
  if isFirst then
    ((working.close stream).create stream (stream.passFile pass)).write stream payload
  else working.write stream payload

/-- The files after all writers are closed, stream by stream. -/
def finish (working : WorkingFiles) : WorkingFiles :=
  working.writers.keys.foldl close working

def read (working : WorkingFiles) (path : String) : List UInt8 :=
  working.files.getD (Path.names path) []

end WorkingFiles

end RowLog
