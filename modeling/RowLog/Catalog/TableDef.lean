import RowLog.Catalog.Error
import RowLog.Schema.Statement
import RowLog.Schema.TableInfo
import RowLog.Text.Ascii

/-!
# The definition of a table

A `TableDef` holds the columns of a table and all of its indexes, also those that do not tell rows
apart, as a later statement may name them. Columns and indexes are found by their names without
regard to ASCII case; an index spells its columns as the table does. Each change of a definition
either gives a new one or says why it is refused.
-/

namespace RowLog

open Schema

def primaryKeyName : String := "PRIMARY"

/-- An index of a table. -/
structure TableIndex where
  name : String
  primary : Bool
  unique : Bool
  columns : List String
  deriving DecidableEq

/-- The columns and the indexes of a table, in the order in which they were added. -/
structure TableDef where
  columns : List ColumnDef
  indexes : List TableIndex
  deriving DecidableEq

namespace TableIndex

def info (index : TableIndex) : KeyInfo :=
  ⟨index.name, index.columns⟩

end TableIndex

namespace TableDef

def empty : TableDef := ⟨[], []⟩

def column? (definition : TableDef) (name : String) : Option ColumnDef :=
  definition.columns.find? fun column => sameIgnoringCase column.name name

def hasColumn (definition : TableDef) (name : String) : Bool :=
  (definition.column? name).isSome

def hasIndex (definition : TableDef) (name : String) : Bool :=
  definition.indexes.any fun index => sameIgnoringCase index.name name

/-- The first free name among `stem_2`, `stem_3` and so on. There are more of these than indexes. -/
def numberedName (definition : TableDef) (stem : String) : String :=
  let candidates := (List.range (definition.indexes.length + 1)).map fun n => s!"{stem}_{n + 2}"
  (candidates.find? fun name => !definition.hasIndex name).getD stem

/-- The name of an index that is given none: that of its first column, with a number if it is taken. -/
def defaultIndexName (definition : TableDef) (column : String) : String :=
  if definition.hasIndex column then definition.numberedName column else column

def declaredColumns (definition : TableDef) (names : List String) :
    Except DefinitionError (List String) :=
  names.mapM fun name =>
    match definition.column? name with
    | some column => .ok column.name
    | none => .error (.unknownKeyColumn name)

def indexName (definition : TableDef) (index : IndexDef) (firstColumn : String) :
    Except DefinitionError String :=
  if index.primary then
    if definition.indexes.any (·.primary) then .error .severalPrimaryKeys else .ok primaryKeyName
  else
    match index.name with
    | some name => if definition.hasIndex name then .error (.duplicateIndex name) else .ok name
    | none => .ok (definition.defaultIndexName firstColumn)

def addIndex (definition : TableDef) (index : IndexDef) : Except DefinitionError TableDef := do
  match ← definition.declaredColumns index.columns with
  | [] => return definition
  | first :: rest =>
      let name ← definition.indexName index first
      return { definition with
        indexes := definition.indexes ++ [⟨name, index.primary, index.unique, first :: rest⟩] }

def inlineIndex? (column : ColumnDef) : Option IndexDef :=
  if column.primary || column.unique then some ⟨none, column.primary, true, [column.name]⟩
  else none

def addInlineIndex (definition : TableDef) (column : ColumnDef) :
    Except DefinitionError TableDef :=
  match inlineIndex? column with
  | some index => definition.addIndex index
  | none => .ok definition

def insertAfter (column : ColumnDef) (name : String) : List ColumnDef → List ColumnDef
  | [] => []
  | other :: rest =>
      if sameIgnoringCase other.name name then other :: column :: rest
      else other :: insertAfter column name rest

def insertColumn (definition : TableDef) (column : ColumnDef) :
    Position → Except DefinitionError TableDef
  | .last => .ok { definition with columns := definition.columns ++ [column] }
  | .first => .ok { definition with columns := column :: definition.columns }
  | .after name =>
      if definition.hasColumn name then
        .ok { definition with columns := insertAfter column name definition.columns }
      else .error (.unknownColumn name)

/-- Adds a column, and its index if it asks for one. -/
def addColumn (definition : TableDef) (column : ColumnDef) (position : Position) :
    Except DefinitionError TableDef := do
  if definition.hasColumn column.name then throw (.duplicateColumn column.name)
  (← definition.insertColumn column position).addInlineIndex column

/-- Adds columns one after another, starting from a place. -/
def addColumns (definition : TableDef) (position : Position) :
    List ColumnDef → Except DefinitionError TableDef
  | [] => .ok definition
  | column :: rest => do
      let next := if position = .last then .last else .after column.name
      (← definition.addColumn column position).addColumns next rest

/-- Removes the first column with a given name. -/
def eraseColumn (definition : TableDef) (name : String) : TableDef :=
  { definition with
    columns := definition.columns.eraseP fun column => sameIgnoringCase column.name name }

/-- Takes a column out of every index; an index that loses its last column is removed. -/
def eraseFromIndexes (definition : TableDef) (name : String) : TableDef :=
  let shortened := definition.indexes.map fun index =>
    { index with columns := index.columns.filter fun column => !sameIgnoringCase column name }
  { definition with indexes := shortened.filter fun index => !index.columns.isEmpty }

def dropColumn (definition : TableDef) (name : String) : Except DefinitionError TableDef :=
  if definition.hasColumn name then .ok ((definition.eraseColumn name).eraseFromIndexes name)
  else .error (.unknownColumn name)

def renameInIndexes (definition : TableDef) (source target : String) : TableDef :=
  { definition with
    indexes := definition.indexes.map fun index =>
      { index with
        columns := index.columns.map fun column =>
          if sameIgnoringCase column source then target else column } }

/-- Changes the first column with a given name. -/
def updateColumn (name : String) (change : ColumnDef → ColumnDef) : List ColumnDef → List ColumnDef
  | [] => []
  | column :: rest =>
      if sameIgnoringCase column.name name then change column :: rest
      else column :: updateColumn name change rest

/-- Puts a column in the place of another one, or in a place of its own. -/
def placeColumn (definition : TableDef) (old : String) (column : ColumnDef) (position : Position) :
    Except DefinitionError TableDef :=
  if position = .last then
    .ok { definition with columns := updateColumn old (fun _ => column) definition.columns }
  else (definition.eraseColumn old).insertColumn column position

/-- Gives a column a new declaration, and its index if it asks for one. -/
def replaceColumn (definition : TableDef) (old : String) (column : ColumnDef)
    (position : Position) : Except DefinitionError TableDef := do
  if !definition.hasColumn old then throw (.unknownColumn old)
  if !sameIgnoringCase column.name old && definition.hasColumn column.name then
    throw (.duplicateColumn column.name)
  let renamed := definition.renameInIndexes old column.name
  (← renamed.placeColumn old column position).addInlineIndex column

def renameColumn (definition : TableDef) (source target : String) :
    Except DefinitionError TableDef := do
  if !definition.hasColumn source then throw (.unknownColumn source)
  if definition.hasColumn target then throw (.duplicateColumn target)
  let columns := updateColumn source (fun column => { column with name := target })
    definition.columns
  return { definition with columns }.renameInIndexes source target

def dropIndex (definition : TableDef) (name : String) : Except DefinitionError TableDef :=
  if definition.hasIndex name then
    .ok { definition with
      indexes := definition.indexes.eraseP fun index => sameIgnoringCase index.name name }
  else .error (.nothingToDrop name)

/-- Changes the first index with a given name. -/
def updateIndex (name : String) (change : TableIndex → TableIndex) :
    List TableIndex → List TableIndex
  | [] => []
  | index :: rest =>
      if sameIgnoringCase index.name name then change index :: rest
      else index :: updateIndex name change rest

def renameIndex (definition : TableDef) (source target : String) :
    Except DefinitionError TableDef := do
  if !definition.hasIndex source then throw (.unknownIndex source)
  if definition.hasIndex target then throw (.duplicateIndex target)
  return { definition with
    indexes := updateIndex source (fun index => { index with name := target }) definition.indexes }

/-- Applies one change. A change of the table's name leaves its definition as it is. -/
def alter (definition : TableDef) : AlterSpec → Except DefinitionError TableDef
  | .addColumns columns position => definition.addColumns position columns
  | .dropColumn name => definition.dropColumn name
  | .modifyColumn column position => definition.replaceColumn column.name column position
  | .changeColumn old column position => definition.replaceColumn old column position
  | .renameColumn source target => definition.renameColumn source target
  | .addIndex index => definition.addIndex index
  | .dropPrimaryKey => definition.dropIndex primaryKeyName
  | .dropIndex name => definition.dropIndex name
  | .renameIndex source target => definition.renameIndex source target
  | .renameTable _ => .ok definition
  | .other => .ok definition

def ofElements (columns : List ColumnDef) (indexes : List IndexDef) :
    Except DefinitionError TableDef := do
  indexes.foldlM addIndex (← empty.addColumns .last columns)

def info (definition : TableDef) : TableInfo where
  columns := (definition.columns.filter fun column => !column.generated).map ColumnDef.name
  primaryKey := (definition.indexes.find? (·.primary)).map TableIndex.info
  uniqueKeys :=
    (definition.indexes.filter fun index => index.unique && !index.primary).map TableIndex.info

end TableDef

end RowLog
