import RowLog.Schema.Ddl
import RowLog.Schema.Quote

/-!
# Where a schema change belongs

A schema change is carried by the stream of the table it works on, a renaming by the stream of the
new name, and a change of a database by the stream of that database. A statement that drops or
renames several tables is split into one statement for each. Main definition: `route`.
-/

namespace RowLog.Schema

/-- A statement with the stream that carries it. -/
structure RoutedChange where
  schema : String
  /-- The table of the stream; none for the stream of a database. -/
  table : Option String
  statement : String
  deriving DecidableEq

namespace RoutedChange

def ofTable (name : QualifiedName) (statement : String) : RoutedChange :=
  ⟨name.schema, some name.table, statement⟩

end RoutedChange

def dropText (ifExists : Bool) (name : QualifiedName) : String :=
  "DROP TABLE " ++ (if ifExists then "IF EXISTS " else "") ++ quoteTable name

def renameText (source target : QualifiedName) : String :=
  "RENAME TABLE " ++ quoteTable source ++ " TO " ++ quoteTable target

namespace Ddl

def routes (ddl : Ddl) (text : String) : Except CatalogError (List RoutedChange) :=
  let whole (table : TableRef) : Except CatalogError (List RoutedChange) := do
    return [.ofTable (← ddl.resolve table) text]
  match ddl.statement with
  | .createDatabase name _ => .ok [⟨name, none, text⟩]
  | .alterDatabase name => .ok [⟨name, none, text⟩]
  | .dropDatabase name _ => .ok [⟨name, none, text⟩]
  | .createTable table _ _ _ => whole table
  | .createTableLike table _ _ => whole table
  | .truncateTable table => whole table
  | .createIndex table _ => whole table
  | .dropIndex table _ => whole table
  | .alterTable table specs => whole ((specs.filterMap AlterSpec.newName?).getLast?.getD table)
  | .dropTable [table] _ => whole table
  | .dropTable tables ifExists =>
      tables.mapM fun table => do
        let name ← ddl.resolve table
        return .ofTable name (dropText ifExists name)
  | .renameTable [(_, target)] => whole target
  | .renameTable pairs =>
      pairs.mapM fun (source, target) => do
        let sourceName ← ddl.resolve source
        let targetName ← ddl.resolve target
        return .ofTable targetName (renameText sourceName targetName)

end Ddl

/-- The streams that carry the statement of a text, each with its own text. -/
def route (text : String) : Except CatalogError (List RoutedChange) := do
  (← Ddl.parse text).routes text

end RowLog.Schema
