import RowLog.Catalog.TableDef
import RowLog.Schema.Ddl

/-!
# The catalog of tables

A `Catalog` knows the databases and the definitions of the tables as the schema changes so far left
them. `Catalog.execute` applies one more change; a change that is refused may have had part of its
effect before, so the catalog after it is returned in any case. Of a table's past nothing is
assumed: a table may be created again, which replaces its definition.
-/

namespace RowLog

open Schema

/-- A table of the catalog. What is known of it is worked out once for each definition and kept
beside it. -/
structure TableEntry where
  definition : TableDef
  info : TableInfo
  info_eq : info = definition.info

namespace TableEntry

def ofDefinition (definition : TableDef) : TableEntry :=
  ⟨definition, definition.info, rfl⟩

@[simp]
theorem definition_ofDefinition (definition : TableDef) :
    (ofDefinition definition).definition = definition := rfl

/-- There is nothing to a table but its definition. -/
theorem ofDefinition_definition (entry : TableEntry) : ofDefinition entry.definition = entry := by
  rcases entry with ⟨definition, info, rfl⟩
  rfl

end TableEntry

/-- The databases and tables that there are. -/
structure Catalog where
  databases : Std.ExtTreeMap String Unit
  tables : Std.ExtTreeMap QualifiedName TableEntry QualifiedName.compare

namespace Catalog

def empty : Catalog := ⟨∅, ∅⟩

/-- The names of the databases, in order. -/
def databaseNames (catalog : Catalog) : List String :=
  catalog.databases.keys

def hasDatabase (catalog : Catalog) (name : String) : Bool :=
  catalog.databases.contains name

/-- Adds a database, which may be there already. -/
def addDatabase (catalog : Catalog) (name : String) : Catalog :=
  { catalog with databases := catalog.databases.insert name () }

/-- Removes a database. Its tables stay until they are dropped themselves. -/
def eraseDatabase (catalog : Catalog) (name : String) : Catalog :=
  { catalog with databases := catalog.databases.erase name }

def held? (catalog : Catalog) (name : QualifiedName) : Option TableEntry :=
  catalog.tables[name]?

def table? (catalog : Catalog) (name : QualifiedName) : Option TableDef :=
  (catalog.held? name).map TableEntry.definition

/-- Puts a table under a name; the database of the name is added along with it. -/
def setEntry (catalog : Catalog) (name : QualifiedName) (entry : TableEntry) : Catalog :=
  let catalog := catalog.addDatabase name.schema
  { catalog with tables := catalog.tables.insert name entry }

/-- Gives a table a definition; its database is added along with it. -/
def setTable (catalog : Catalog) (name : QualifiedName) (definition : TableDef) : Catalog :=
  catalog.setEntry name (.ofDefinition definition)

theorem setEntry_eq_setTable (catalog : Catalog) (name : QualifiedName) (entry : TableEntry) :
    catalog.setEntry name entry = catalog.setTable name entry.definition := by
  rw [setTable, TableEntry.ofDefinition_definition]

def redefine (catalog : Catalog) (name : QualifiedName) (definition : TableDef) : Catalog :=
  { catalog with tables := catalog.tables.insert name (.ofDefinition definition) }

def eraseTable (catalog : Catalog) (name : QualifiedName) : Catalog :=
  { catalog with tables := catalog.tables.erase name }

def lookup (catalog : Catalog) (name : QualifiedName) : Except CatalogError TableDef :=
  match catalog.table? name with
  | some definition => .ok definition
  | none => .error (.tableNotFound name)

/-- What is known of a table. A table without stored columns counts as missing. -/
def tableInfo (catalog : Catalog) (name : QualifiedName) : Except CatalogError TableInfo :=
  match (catalog.held? name).map TableEntry.info with
  | some info => if info.columns.isEmpty then .error (.tableMissing name) else .ok info
  | none => .error (.tableMissing name)

/-- Removes tables one after another up to the first that is not there. -/
def dropTables (ddl : Ddl) (ifExists : Bool) :
    Catalog → List TableRef → Catalog × Except CatalogError Unit
  | catalog, [] => (catalog, .ok ())
  | catalog, table :: rest =>
      match ddl.resolve table with
      | .error error => (catalog, .error error)
      | .ok name =>
          if (catalog.table? name).isNone && !ifExists then (catalog, .error (.tableNotFound name))
          else dropTables ddl ifExists (catalog.eraseTable name) rest

/-- Renames tables one after another up to the first that is not there. -/
def renameTables (ddl : Ddl) :
    Catalog → List (TableRef × TableRef) → Catalog × Except CatalogError Unit
  | catalog, [] => (catalog, .ok ())
  | catalog, (source, target) :: rest =>
      match ddl.resolve source with
      | .error error => (catalog, .error error)
      | .ok sourceName =>
          match catalog.held? sourceName with
          | none => (catalog, .error (.tableNotFound sourceName))
          | some entry =>
              let catalog := catalog.eraseTable sourceName
              match ddl.resolve target with
              | .error error => (catalog, .error error)
              | .ok targetName => renameTables ddl (catalog.setEntry targetName entry) rest

/-- The outcome of a change that has its effect as a whole or not at all. -/
def settle (catalog : Catalog) : Except CatalogError Catalog → Catalog × Except CatalogError Unit
  | .ok next => (next, .ok ())
  | .error error => (catalog, .error error)

/-- A definition, or why a statement with a given text is refused. -/
def accepted (text : String) (result : Except DefinitionError TableDef) :
    Except CatalogError TableDef :=
  result.mapError fun error => .invalid text (.refused error)

/-- Creates a database, which must be new unless the statement says otherwise. -/
def createDatabase (catalog : Catalog) (text name : String) (ifNotExists : Bool) :
    Except CatalogError Catalog :=
  if catalog.hasDatabase name && !ifNotExists then
    .error (.invalid text (.refused (.databaseExists name)))
  else .ok (catalog.addDatabase name)

/-- Removes a database, which must be there unless the statement says otherwise. -/
def dropDatabase (catalog : Catalog) (text name : String) (ifExists : Bool) :
    Except CatalogError Catalog :=
  if !catalog.hasDatabase name && !ifExists then
    .error (.invalid text (.refused (.databaseMissing name)))
  else .ok (catalog.eraseDatabase name)

/-- Creates a table with a definition that is only made up if it is needed. -/
def createTable (catalog : Catalog) (name : QualifiedName) (ifNotExists : Bool)
    (definition : Unit → Except CatalogError TableDef) : Except CatalogError Catalog :=
  if ifNotExists && (catalog.table? name).isSome then .ok catalog
  else (definition ()).map (catalog.setTable name)

def changeIndexes (catalog : Catalog) (text : String) (name : QualifiedName)
    (change : TableDef → Except DefinitionError TableDef) : Except CatalogError Catalog := do
  let definition ← catalog.lookup name
  return catalog.redefine name (← accepted text (change definition))

/-- The name and the definition of a table after one more change of it. -/
def alterStep (ddl : Ddl) (text : String) (table : QualifiedName × TableDef) (spec : AlterSpec) :
    Except CatalogError (QualifiedName × TableDef) :=
  match spec.newName? with
  | some target => (ddl.resolve target).map fun name => (name, table.2)
  | none => (accepted text (table.2.alter spec)).map fun definition => (table.1, definition)

/-- Puts a table under a name, which is another one than before if it was renamed. -/
def moveTable (catalog : Catalog) (source target : QualifiedName) (definition : TableDef) :
    Catalog :=
  if target = source then catalog.setTable target definition
  else (catalog.eraseTable source).setTable target definition

def alterTable (catalog : Catalog) (ddl : Ddl) (text : String) (source : QualifiedName)
    (specs : List AlterSpec) : Except CatalogError Catalog := do
  let definition ← catalog.lookup source
  let (target, definition) ← specs.foldlM (alterStep ddl text) (source, definition)
  return catalog.moveTable source target definition

/-- The catalog after a statement with a given text, and whether it was refused. -/
def apply (catalog : Catalog) (ddl : Ddl) (text : String) : Catalog × Except CatalogError Unit :=
  match ddl.statement with
  | .createDatabase name ifNotExists => catalog.settle (catalog.createDatabase text name ifNotExists)
  | .alterDatabase _ => (catalog, .ok ())
  | .dropDatabase name ifExists => catalog.settle (catalog.dropDatabase text name ifExists)
  | .createTable table ifNotExists columns indexes =>
      catalog.settle do
        catalog.createTable (← ddl.resolve table) ifNotExists fun _ =>
          accepted text (TableDef.ofElements columns indexes)
  | .createTableLike table ifNotExists source =>
      catalog.settle do
        catalog.createTable (← ddl.resolve table) ifNotExists fun _ => do
          catalog.lookup (← ddl.resolve source)
  | .dropTable tables ifExists => dropTables ddl ifExists catalog tables
  | .truncateTable table =>
      (catalog, do
        let _ ← catalog.lookup (← ddl.resolve table))
  | .renameTable pairs => renameTables ddl catalog pairs
  | .createIndex table index =>
      catalog.settle do
        catalog.changeIndexes text (← ddl.resolve table) fun definition => definition.addIndex index
  | .dropIndex table name =>
      catalog.settle do
        catalog.changeIndexes text (← ddl.resolve table) fun definition => definition.dropIndex name
  | .alterTable table specs =>
      catalog.settle do catalog.alterTable ddl text (← ddl.resolve table) specs

/-- The catalog after a schema change, and whether it was refused. -/
def execute (catalog : Catalog) (text : String) : Catalog × Except CatalogError Unit :=
  match Ddl.parse text with
  | .ok ddl => catalog.apply ddl text
  | .error error => (catalog, .error error)

/-- The catalog after schema changes, up to the first that is refused. -/
def executeAll : Catalog → List String → Except CatalogError Catalog
  | catalog, [] => .ok catalog
  | catalog, text :: rest =>
      match catalog.execute text with
      | (next, .ok ()) => next.executeAll rest
      | (_, .error error) => .error error

end Catalog

end RowLog
