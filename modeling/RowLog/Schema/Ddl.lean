import RowLog.Catalog.Error
import RowLog.Schema.Grammar

/-!
# The text of a schema change

The text of a schema change is one statement, before which `USE` may select a database. Main
definitions: `Ddl.parse` reads such a text, and `Ddl.tables` lists the tables whose structure it
creates, changes or removes.
-/

namespace RowLog.Schema

/-- A statement with the database that is selected for it. -/
structure Ddl where
  currentSchema : Option String
  statement : Statement
  deriving DecidableEq

def splitStatements : List Token → List (List Token)
  | [] => [[]]
  | token :: rest =>
      if token = .punct ';' then [] :: splitStatements rest
      else
        match splitStatements rest with
        | part :: parts => (token :: part) :: parts
        | [] => [[token]]

/-- The database that `USE` selects, after its keyword. -/
def Parser.useClause : Parser String := do
  let schema ← name
  expectEnd
  return schema

namespace Ddl

/-- The statement among the parts of a text, after a database and a statement that may have been
found already. -/
def ofParts (schema : Option String) (found : Option Statement) :
    List (List Token) → Except SyntaxError Ddl
  | [] =>
      match found with
      | some statement => .ok ⟨schema, statement⟩
      | none => .error .noStatement
  | part :: parts => do
      let (selects, tokens) ← Parser.eatKeyword ["USE"] part
      if selects then
        if found.isSome then .error .lateUse
        else
          let (selected, _) ← Parser.useClause tokens
          ofParts (some selected) none parts
      else if found.isSome then .error .severalStatements
      else
        let (statement, _) ← Parser.statement tokens
        ofParts schema (some statement) parts

def ofTokens (tokens : List Token) : Except SyntaxError Ddl :=
  ofParts none none ((splitStatements tokens).filter fun part => !part.isEmpty)

def read (text : String) : Except SyntaxError Ddl := do
  ofTokens (← Token.scan text.toList)

/-- The statement of a text, where an error shows the text. -/
def parse (text : String) : Except CatalogError Ddl :=
  (read text).mapError fun error => .invalid text (.malformed error)

/-- The table that a name refers to: a name without a database lies in the selected one. -/
def resolve (ddl : Ddl) (table : TableRef) : Except CatalogError QualifiedName :=
  match table.schema.or ddl.currentSchema with
  | some schema => .ok ⟨schema, table.name⟩
  | none => .error (.invalid table.name (.malformed .noDatabase))

/-- The names of the tables that a statement creates, changes or removes, as they are written. The
table whose structure another one takes over is not among them. -/
def tableRefs : Statement → List TableRef
  | .createDatabase _ _ | .alterDatabase _ | .dropDatabase _ _ => []
  | .createTable table _ _ _ => [table]
  | .createTableLike table _ _ => [table]
  | .truncateTable table => [table]
  | .createIndex table _ => [table]
  | .dropIndex table _ => [table]
  | .alterTable table specs => table :: specs.filterMap AlterSpec.newName?
  | .dropTable tables _ => tables
  | .renameTable pairs => pairs.flatMap fun pair => [pair.1, pair.2]

/-- The tables that a statement creates, changes or removes, each once. -/
def tables (ddl : Ddl) : Except CatalogError (List QualifiedName) := do
  return (← (tableRefs ddl.statement).mapM ddl.resolve).eraseDups

end Ddl

end RowLog.Schema
