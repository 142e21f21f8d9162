/-!
# Schema statements

The statements that change databases, tables and indexes, reduced to what matters for telling the
rows of a table apart: its columns, its primary key and its unique keys.
-/

namespace RowLog.Schema

/-- The name of a table, with or without its database. -/
structure TableRef where
  schema : Option String
  name : String
  deriving DecidableEq

/-- A column as it is declared. -/
structure ColumnDef where
  name : String
  /-- Whether its values are computed, so that rows do not carry them. -/
  generated : Bool
  primary : Bool
  unique : Bool
  deriving DecidableEq

/-- An index as it is declared. -/
structure IndexDef where
  name : Option String
  primary : Bool
  unique : Bool
  columns : List String
  deriving DecidableEq

/-- The place of a column among the others. -/
inductive Position
  | last
  | first
  | after (column : String)
  deriving DecidableEq

/-- One change of a table. -/
inductive AlterSpec
  | addColumns (columns : List ColumnDef) (position : Position)
  | dropColumn (name : String)
  | modifyColumn (column : ColumnDef) (position : Position)
  | changeColumn (old : String) (column : ColumnDef) (position : Position)
  | renameColumn (source target : String)
  | addIndex (index : IndexDef)
  | dropPrimaryKey
  | dropIndex (name : String)
  | renameIndex (source target : String)
  | renameTable (target : TableRef)
  | other
  deriving DecidableEq

/-- A statement. -/
inductive Statement
  | createDatabase (name : String) (ifNotExists : Bool)
  | alterDatabase (name : String)
  | dropDatabase (name : String) (ifExists : Bool)
  | createTable (table : TableRef) (ifNotExists : Bool) (columns : List ColumnDef)
      (indexes : List IndexDef)
  | createTableLike (table : TableRef) (ifNotExists : Bool) (source : TableRef)
  | dropTable (tables : List TableRef) (ifExists : Bool)
  | truncateTable (table : TableRef)
  | renameTable (pairs : List (TableRef × TableRef))
  | createIndex (table : TableRef) (index : IndexDef)
  | dropIndex (table : TableRef) (name : String)
  | alterTable (table : TableRef) (specs : List AlterSpec)
  deriving DecidableEq

namespace AlterSpec

def newName? : AlterSpec → Option TableRef
  | .renameTable target => some target
  | _ => none

end AlterSpec

end RowLog.Schema
