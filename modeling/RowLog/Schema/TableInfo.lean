/-!
# What is known of a table

The part of a table's structure that matters for its rows: the columns that are stored, and the
indexes that tell rows apart.
-/

namespace RowLog

/-- An index that no two rows share. -/
structure KeyInfo where
  name : String
  columns : List String
  deriving DecidableEq

/-- The columns of a table and its primary and unique keys. -/
structure TableInfo where
  columns : List String
  primaryKey : Option KeyInfo
  uniqueKeys : List KeyInfo
  deriving DecidableEq

namespace TableInfo

/-- The columns that identify a row: those of the primary key, else those of the first unique key,
else all columns. -/
def keyColumns (info : TableInfo) : List String :=
  match info.primaryKey, info.uniqueKeys with
  | some key, _ => key.columns
  | none, key :: _ => key.columns
  | none, [] => info.columns

end TableInfo

end RowLog
