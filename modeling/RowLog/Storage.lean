/-!
# Storage

What a compaction asks of the place where its files are: `Storage` says what can be done there, and
every operation answers whether it could be done.
-/

namespace RowLog

/-- A place for files, by the monad in which it is used. -/
class Storage (m : Type → Type) where
  /-- The names of the files in a directory, unless it cannot be read. -/
  fileNames : (path : String) → m (Option (List String))
  /-- The bytes of a file, unless it cannot be read. -/
  read : (path : String) → m (Option (List UInt8))
  /-- Creates a directory and those on the way to it, as far as they are missing. -/
  createDirectory : (path : String) → m Bool
  /-- Puts a file in a place, and creates the directories on the way to it. -/
  write : (path : String) → (bytes : List UInt8) → m Bool
  remove : (path : String) → m Unit
  pause : (milliseconds : Nat) → m Unit

end RowLog
