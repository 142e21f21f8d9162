import RowLog.Log.Record
import RowLog.Schema.QualifiedName
import RowLog.Schema.Token

/-!
# Why a schema change is refused

The errors of reading a schema change, of applying it to the tables that there are, and of asking
for a table.
-/

namespace RowLog

/-- Why a statement that can be read is refused. -/
inductive DefinitionError
  | databaseExists (name : String)
  | databaseMissing (name : String)
  | duplicateColumn (name : String)
  | unknownColumn (name : String)
  | unknownKeyColumn (name : String)
  | severalPrimaryKeys
  | duplicateIndex (name : String)
  | unknownIndex (name : String)
  /-- An index to be removed is not there. -/
  | nothingToDrop (name : String)
  deriving DecidableEq

def DefinitionError.message : DefinitionError → String
  | .databaseExists name => s!"database `{name}` exists"
  | .databaseMissing name => s!"database `{name}` doesn't exist"
  | .duplicateColumn name => s!"duplicate column `{name}`"
  | .unknownColumn name => s!"unknown column `{name}`"
  | .unknownKeyColumn name => s!"key column `{name}` doesn't exist in table"
  | .severalPrimaryKeys => "multiple primary key defined"
  | .duplicateIndex name => s!"duplicate key name `{name}`"
  | .unknownIndex name => s!"unknown key `{name}`"
  | .nothingToDrop name => s!"can't drop index `{name}`; check that it exists"

/-- Why a text is no schema change, or none that is possible. -/
inductive InvalidReason
  | malformed (error : Schema.SyntaxError)
  | refused (error : DefinitionError)
  deriving DecidableEq

def InvalidReason.message : InvalidReason → String
  | .malformed error => error.message
  | .refused error => error.message

/-- What can go wrong with the catalog of tables. -/
inductive CatalogError
  /-- A table that is asked for is not there. -/
  | tableMissing (name : Schema.QualifiedName)
  /-- A table that a statement works on is not there. -/
  | tableNotFound (name : Schema.QualifiedName)
  | invalid (statement : String) (reason : InvalidReason)
  | notApplied (stamp : Timestamp) (statement : String) (cause : CatalogError)
  | historyUnreadable (path : String)
  | historyMalformed (path : String)
  deriving DecidableEq

/-- The wording of an error. What the system or the history file says is not repeated. -/
def CatalogError.message : CatalogError → String
  | .tableMissing name => s!"table `{name.schema}`.`{name.table}` not exist"
  | .tableNotFound name => s!"table `{name.schema}`.`{name.table}` not found"
  | .invalid statement reason => s!"invalid ddl `{statement}`: {reason.message}"
  | .notApplied stamp statement cause =>
      s!"schema change `{statement}` at {stamp} was not applied: {cause.message}"
  | .historyUnreadable path => s!"failed to read schema history {path}"
  | .historyMalformed path => s!"malformed schema history {path}"

end RowLog
