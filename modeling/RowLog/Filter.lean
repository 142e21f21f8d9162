import RowLog.Pattern.Matching
import RowLog.Pattern.Parser
import RowLog.Text.Ascii

/-!
# Filters

A filter says which databases and tables take part in a compaction. It is given by rules, of which
those that start with `~` are patterns and the others are names. Main definitions: `Filter.ofRules`
and `Filter.allows`.
-/

namespace RowLog

/-- A rule for tables: a rule for the database and one for the name. -/
structure TableRule where
  schema : String
  table : String
  deriving DecidableEq

/-- The rules of a filter. -/
structure FilterRules where
  databases : List String
  tables : List TableRule
  /-- The databases that do not. -/
  ignoredDatabases : List String
  /-- The tables that do not. -/
  ignoredTables : List TableRule
  deriving DecidableEq

def FilterRules.none : FilterRules := ⟨[], [], [], []⟩

/-- A rule whose pattern cannot be read. -/
structure FilterError where
  pattern : String
  deriving DecidableEq

/-- The wording of an error. What is wrong with the pattern is not said. -/
def FilterError.message (error : FilterError) : String :=
  s!"invalid filter pattern `{error.pattern}`"

/-- A rule that names are compared with. -/
inductive NameMatcher
  /-- The name itself, in any case. -/
  | exactly (name : String)
  | like (pattern : Pattern)

namespace NameMatcher

/-- The matcher of a rule. In a pattern letters stand for both their cases, unless it says
otherwise. -/
def ofRule (rule : String) : Except FilterError NameMatcher :=
  match rule.toList with
  | '~' :: pattern =>
      match Pattern.parse? ("(?i)" ++ String.ofList pattern) with
      | some compiled => .ok (.like compiled)
      | none => .error ⟨String.ofList pattern⟩
  | _ => .ok (.exactly rule)

def accepts (name : String) : NameMatcher → Bool
  | .exactly expected => sameIgnoringCase expected name
  | .like pattern => pattern.isMatch name

end NameMatcher

/-- A rule for tables, ready for use. -/
structure TableMatcher where
  schema : NameMatcher
  table : NameMatcher

namespace TableMatcher

def ofRule (rule : TableRule) : Except FilterError TableMatcher := do
  return ⟨← NameMatcher.ofRule rule.schema, ← NameMatcher.ofRule rule.table⟩

/-- Whether a table is meant by the rule; without a table, whether some table of the database may
be. -/
def accepts (matcher : TableMatcher) (schema : String) (table : Option String) : Bool :=
  matcher.schema.accepts schema && table.all fun table => matcher.table.accepts table

end TableMatcher

/-- The rules of a filter, ready for use. -/
structure Filter where
  databases : List NameMatcher
  tables : List TableMatcher
  ignoredDatabases : List NameMatcher
  ignoredTables : List TableMatcher

namespace Filter

def ofRules (rules : FilterRules) : Except FilterError Filter := do
  return {
    databases := ← rules.databases.mapM NameMatcher.ofRule
    tables := ← rules.tables.mapM TableMatcher.ofRule
    ignoredDatabases := ← rules.ignoredDatabases.mapM NameMatcher.ofRule
    ignoredTables := ← rules.ignoredTables.mapM TableMatcher.ofRule }

def systemSchemas : List String :=
  ["mysql", "information_schema", "performance_schema", "sys"]

/-- Whether a database, or a table of it, must not take part. -/
def ignores (filter : Filter) (schema : String) (table : Option String) : Bool :=
  systemSchemas.any (sameIgnoringCase · schema) ||
    filter.ignoredDatabases.any (NameMatcher.accepts schema) ||
    (table.isSome && filter.ignoredTables.any fun matcher => matcher.accepts schema table)

/-- Whether a database, or a table of it, is asked for. Where no rule asks for anything, all is. -/
def asksFor (filter : Filter) (schema : String) (table : Option String) : Bool :=
  (filter.databases.isEmpty && filter.tables.isEmpty) ||
    filter.databases.any (NameMatcher.accepts schema) ||
    filter.tables.any fun matcher => matcher.accepts schema table

/-- Whether a table takes part or, without a table, the changes of a database itself. -/
def allows (filter : Filter) (schema : String) (table : Option String) : Bool :=
  !filter.ignores schema table && filter.asksFor schema table

end Filter

end RowLog
