import Std.Data.ExtTreeMap
import RowLog.Path
import RowLog.Storage

/-!
# Trees of files

A `FileTree` is a file system as a value. It is a `Storage`, so what a compaction does to its files
can be stated as a function of them.
-/

namespace RowLog

/-- What can be at a path. -/
inductive FileNode
  | directory
  | file (bytes : List UInt8)
  deriving DecidableEq

/-- A file system. The root is a directory and has no node. -/
structure FileTree where
  /-- What is where, by the texts of the paths. -/
  nodes : Std.ExtTreeMap String FileNode

namespace FileTree

def empty : FileTree := ⟨∅⟩

def node? (tree : FileTree) (names : List String) : Option FileNode :=
  if names = [] then some .directory else tree.nodes[Path.ofNames names]?

def put (tree : FileTree) (names : List String) (node : FileNode) : FileTree :=
  ⟨tree.nodes.insert (Path.ofNames names) node⟩

def nameLimit : Nat := 255

/-- Creates the directories that names lead to from `done` on, up to the first that cannot be. -/
def createAlong (tree : FileTree) (done : List String) : List String → FileTree × Bool
  | [] => (tree, true)
  | name :: rest =>
      let path := done ++ [name]
      match tree.node? path with
      | some .directory => tree.createAlong path rest
      | some (.file _) => (tree, false)
      | none =>
          if name.utf8ByteSize ≤ nameLimit then (tree.put path .directory).createAlong path rest
          else (tree, false)

def createDirectory (tree : FileTree) (path : String) : FileTree × Bool :=
  tree.createAlong [] (Path.names path)

/-- Puts a file in a place, unless a directory is there. -/
def write (tree : FileTree) (path : String) (bytes : List UInt8) : FileTree × Bool :=
  let names := Path.names path
  match tree.createAlong [] names.dropLast with
  | (next, false) => (next, false)
  | (next, true) =>
      match next.node? names with
      | some .directory => (next, false)
      | some (.file _) => (next.put names (.file bytes), true)
      | none =>
          if (Path.fileName path).utf8ByteSize ≤ nameLimit then
            (next.put names (.file bytes), true)
          else (next, false)

def read (tree : FileTree) (path : String) : Option (List UInt8) :=
  match tree.node? (Path.names path) with
  | some (.file bytes) => some bytes
  | _ => none

/-- All nodes with the names that lead to them, in the order of their paths. -/
def toList (tree : FileTree) : List (List String × FileNode) :=
  tree.nodes.toList.map fun (path, node) => (Path.names path, node)

/-- What is in a directory: the names and the nodes. -/
def entries (tree : FileTree) (directory : List String) : List (String × FileNode) :=
  tree.toList.filterMap fun (names, node) =>
    if names.dropLast = directory then names.getLast?.map (·, node) else none

def fileNames (tree : FileTree) (path : String) : Option (List String) :=
  match tree.node? (Path.names path) with
  | some .directory =>
      some <| (tree.entries (Path.names path)).filterMap fun (name, node) =>
        match node with
        | .file _ => some name
        | .directory => none
  | _ => none

def remove (tree : FileTree) (path : String) : FileTree :=
  let names := Path.names path
  ⟨tree.nodes.filter fun other _ => !names.isPrefixOf (Path.names other)⟩

instance : Storage (StateM FileTree) where
  fileNames path := return (← get).fileNames path
  read path := return (← get).read path
  createDirectory path := modifyGet fun tree =>
    let (next, done) := tree.createDirectory path
    (done, next)
  write path bytes := modifyGet fun tree =>
    let (next, done) := tree.write path bytes
    (done, next)
  remove path := modify (·.remove path)
  pause _ := return

end FileTree

end RowLog
