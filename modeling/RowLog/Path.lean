/-!
# Paths

A path is a text in which `/` separates the names of directories and of what is in them. An empty
name and the name `.` lead nowhere, and `..` leads back. Main definitions: `Path.join` and
`Path.names`.
-/

namespace RowLog.Path

def isAbsolute (path : String) : Bool :=
  path.toList.head? == some '/'

def join (base path : String) : String :=
  if isAbsolute path || base.isEmpty then path
  else if base.toList.getLast? == some '/' then base ++ path
  else base ++ "/" ++ path

def components (path : List Char) : List (List Char) :=
  path.splitOn '/'

/-- Follows a name from a directory on, where a directory is given by the names that lead to it, the
last one first. -/
def follow (directory : List String) (name : List Char) : List String :=
  if name = [] || name = ['.'] then directory
  else if name = ['.', '.'] then directory.tail
  else String.ofList name :: directory

/-- The names of the directories along a path, and of what it leads to. -/
def names (path : String) : List String :=
  ((components path.toList).foldl follow []).reverse

def ofNames (names : List String) : String :=
  "/".intercalate names

/-- The last name of a path. -/
def fileName (path : String) : String :=
  (names path).getLast?.getD ""

end RowLog.Path
