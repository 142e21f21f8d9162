import RowLog.Schema.Statement
import RowLog.Schema.Token
import RowLog.Text.Ascii

/-!
# The grammar of schema statements

A `Parser` takes a list of tokens apart: it returns what it has read and the tokens that follow. The
parsers here read the statements of `RowLog.Schema.Statement`. What has no bearing on columns and
keys is passed over: everything up to the next comma or closing parenthesis of the same level.
Main definition: `statement`.
-/

namespace RowLog.Schema

abbrev Parser (α : Type) := StateT (List Token) (Except SyntaxError) α

namespace Parser

/-- Whether a token is a given keyword, in either case. -/
def isKeyword (keyword : String) : Token → Bool
  | .word text => sameIgnoringCase text keyword
  | _ => false

def atKeyword (keywords : List String) : Parser Bool := fun tokens =>
  .ok (tokens.head?.any fun token => keywords.any fun keyword => isKeyword keyword token, tokens)

/-- Whether the next token is one of some keywords; if it is, it is read. -/
def eatKeyword (keywords : List String) : Parser Bool := fun tokens =>
  match tokens with
  | token :: rest =>
      if keywords.any fun keyword => isKeyword keyword token then .ok (true, rest)
      else .ok (false, tokens)
  | [] => .ok (false, [])

/-- The tokens after a sequence of keywords, if they start with it. -/
def afterKeywords? : List String → List Token → Option (List Token)
  | [], tokens => some tokens
  | keyword :: keywords, token :: tokens =>
      if isKeyword keyword token then afterKeywords? keywords tokens else none
  | _ :: _, [] => none

/-- Whether a sequence of keywords comes next; if it does, all of it is read. -/
def eatKeywords (keywords : List String) : Parser Bool := fun tokens =>
  match afterKeywords? keywords tokens with
  | some rest => .ok (true, rest)
  | none => .ok (false, tokens)

def expectKeyword (keyword : String) : Parser Unit := fun tokens =>
  match tokens with
  | token :: rest =>
      if isKeyword keyword token then .ok ((), rest)
      else .error (.expectedKeyword keyword (some token))
  | [] => .error (.expectedKeyword keyword none)

def atPunct (character : Char) : Parser Bool := fun tokens =>
  .ok (tokens.head? == some (.punct character), tokens)

/-- Whether a character of punctuation comes next; if it does, it is read. -/
def eatPunct (character : Char) : Parser Bool := fun tokens =>
  match tokens with
  | token :: rest =>
      if token = .punct character then .ok (true, rest) else .ok (false, tokens)
  | [] => .ok (false, [])

def expectPunct (character : Char) : Parser Unit := fun tokens =>
  match tokens with
  | token :: rest =>
      if token = .punct character then .ok ((), rest)
      else .error (.expectedPunct character (some token))
  | [] => .error (.expectedPunct character none)

def expectEnd : Parser Unit := fun tokens =>
  match tokens with
  | token :: _ => .error (.unexpected token)
  | [] => .ok ((), [])

def fail {α : Type} (error : Option Token → SyntaxError) : Parser α := fun tokens =>
  .error (error tokens.head?)

/-- A name, with or without quotes. -/
def name : Parser String := fun tokens =>
  match tokens with
  | .word text :: rest => .ok (text, rest)
  | .quoted text :: rest => .ok (text, rest)
  | token :: _ => .error (.expectedName (some token))
  | [] => .error (.expectedName none)

/-- The name of a table, with or without its database. -/
def tableRef : Parser TableRef := do
  let first ← name
  if ← eatPunct '.' then return ⟨some first, ← name⟩
  else return ⟨none, first⟩

/-- The items of a list with commas between them; `fuel` bounds the number of commas. -/
def commaList {α : Type} (item : Parser α) : (fuel : Nat) → Parser (List α)
  | 0 => do return [← item]
  | fuel + 1 => do
      let first ← item
      if ← eatPunct ',' then return first :: (← commaList item fuel)
      else return [first]

/-- The items of a list of at least one, with commas between them. -/
def commaSeparated {α : Type} (item : Parser α) : Parser (List α) := fun tokens =>
  commaList item tokens.length tokens

/-- The tokens after those parentheses that are open, of which there are `depth`. -/
def closeGroups : (depth : Nat) → List Token → Except SyntaxError (List Token)
  | 0, tokens => .ok tokens
  | _ + 1, [] => .error .unbalanced
  | depth + 1, token :: rest =>
      if token = .punct '(' then closeGroups (depth + 2) rest
      else if token = .punct ')' then closeGroups depth rest
      else closeGroups (depth + 1) rest

def skipGroup : Parser Unit := do
  expectPunct '('
  fun tokens => (closeGroups 1 tokens).map fun rest => ((), rest)

/-- The tokens from the next comma or closing parenthesis on, outside the parentheses that are open,
of which there are `depth`. -/
def elementEnd : (depth : Nat) → List Token → Except SyntaxError (List Token)
  | 0, [] => .ok []
  | _ + 1, [] => .error .unbalanced
  | 0, token :: rest =>
      if token = .punct ',' ∨ token = .punct ')' then .ok (token :: rest)
      else if token = .punct '(' then elementEnd 1 rest
      else elementEnd 0 rest
  | depth + 1, token :: rest =>
      if token = .punct '(' then elementEnd (depth + 2) rest
      else if token = .punct ')' then elementEnd depth rest
      else elementEnd (depth + 1) rest

def skipElement : Parser Unit := fun tokens =>
  (elementEnd 0 tokens).map fun rest => ((), rest)

/-- Whether `IF EXISTS` comes next. -/
def ifExists : Parser Bool :=
  eatKeywords ["IF", "EXISTS"]

/-- Whether `IF NOT EXISTS` comes next. -/
def ifNotExists : Parser Bool :=
  eatKeywords ["IF", "NOT", "EXISTS"]

/-- One part of an index: the column that it names, or `none` for an expression. -/
def keyPart : Parser (Option String) := do
  let column ←
    if ← atPunct '(' then
      skipGroup
      pure none
    else
      let column ← name
      if ← atPunct '(' then skipGroup
      pure (some column)
  let _ ← eatKeyword ["ASC", "DESC"]
  return column

/-- The parts of an index, in parentheses. -/
def keyParts : Parser (List (Option String)) := do
  expectPunct '('
  let parts ← commaSeparated keyPart
  expectPunct ')'
  return parts

/-- The columns of an index. A part that is an expression has no column and is left out. -/
def keyColumns : Parser (List String) := do
  return (← keyParts).reduceOption

/-- An index after the keywords that say what kind it is: its name, its method, its parts. -/
def indexBody (primary unique : Bool) : Parser IndexDef := do
  let unnamed := (← atPunct '(') || (← atKeyword ["USING"])
  let indexName ← if unnamed then pure none else some <$> name
  if ← eatKeyword ["USING"] then let _ ← name
  let columns ← keyColumns
  skipElement
  return ⟨indexName, primary, unique, columns⟩

/-- What is declared of a column after its type, up to the end of the element or to the place of the
column. Inside parentheses, of which `depth` are open, nothing counts. -/
def columnOptions : (depth : Nat) → ColumnDef → List Token →
    Except SyntaxError (ColumnDef × List Token)
  | 0, column, [] => .ok (column, [])
  | _ + 1, _, [] => .error .unbalanced
  | depth + 1, column, token :: rest =>
      if token = .punct '(' then columnOptions (depth + 2) column rest
      else if token = .punct ')' then columnOptions depth column rest
      else columnOptions (depth + 1) column rest
  | 0, column, token :: rest =>
      if token = .punct ',' ∨ token = .punct ')' then .ok (column, token :: rest)
      else if token = .punct '(' then columnOptions 1 column rest
      else if isKeyword "FIRST" token || isKeyword "AFTER" token then .ok (column, token :: rest)
      else if isKeyword "PRIMARY" token then
        match rest with
        | [] => .error (.expectedKeyword "KEY" none)
        | second :: rest =>
            if isKeyword "KEY" second then
              columnOptions 0 { column with primary := true } rest
            else .error (.expectedKeyword "KEY" (some second))
      else if isKeyword "UNIQUE" token then
        match rest with
        | [] => .ok ({ column with unique := true }, [])
        | second :: after =>
            if isKeyword "KEY" second then columnOptions 0 { column with unique := true } after
            else columnOptions 0 { column with unique := true } (second :: after)
      else if isKeyword "KEY" token then columnOptions 0 { column with primary := true } rest
      else if isKeyword "GENERATED" token || isKeyword "AS" token then
        columnOptions 0 { column with generated := true } rest
      else columnOptions 0 column rest

/-- A column: its name, its type and what else is declared of it. -/
def columnDef : Parser ColumnDef := do
  let columnName ← name
  let _ ← name
  columnOptions 0 ⟨columnName, false, false, false⟩

def position : Parser Position := do
  if ← eatKeyword ["FIRST"] then return .first
  else if ← eatKeyword ["AFTER"] then return .after (← name)
  else return .last

def constraintName : Parser Unit := do
  if ← eatKeyword ["CONSTRAINT"] then
    if !(← atKeyword ["PRIMARY", "UNIQUE", "FOREIGN", "CHECK"]) then
      let _ ← name

/-- One element in the declaration of a table. -/
inductive TableElement
  | column (column : ColumnDef)
  | index (index : IndexDef)
  | other

/-- An index or a constraint on columns, if the next keywords say so. -/
def indexElement? : Parser (Option IndexDef) := do
  if ← eatKeyword ["PRIMARY"] then
    expectKeyword "KEY"
    return some (← indexBody true true)
  else if ← eatKeyword ["UNIQUE"] then
    let _ ← eatKeyword ["KEY", "INDEX"]
    return some (← indexBody false true)
  else if ← eatKeyword ["KEY", "INDEX"] then return some (← indexBody false false)
  else return none

def tableElement : Parser TableElement := do
  constraintName
  match ← indexElement? with
  | some index => return .index index
  | none =>
      if ← atKeyword ["FULLTEXT", "SPATIAL", "FOREIGN", "CHECK"] then
        skipElement
        return .other
      else return .column (← columnDef)

def elementColumns (elements : List TableElement) : List ColumnDef :=
  elements.filterMap fun
    | .column column => some column
    | _ => none

def elementIndexes (elements : List TableElement) : List IndexDef :=
  elements.filterMap fun
    | .index index => some index
    | _ => none

/-- Whether a table with the structure of another one is declared in parentheses. -/
def eatGroupedLike : Parser Bool := fun tokens =>
  match tokens with
  | first :: second :: rest =>
      if first = .punct '(' ∧ isKeyword "LIKE" second then .ok (true, rest)
      else .ok (false, tokens)
  | _ => .ok (false, tokens)

/-- `CREATE TABLE` after its keywords. -/
def createTable : Parser Statement := do
  let exempt ← ifNotExists
  let table ← tableRef
  if ← eatGroupedLike then
    let source ← tableRef
    expectPunct ')'
    return .createTableLike table exempt source
  else if ← eatKeyword ["LIKE"] then return .createTableLike table exempt (← tableRef)
  else
    if !(← eatPunct '(') then throw .missingColumns
    let elements ← commaSeparated tableElement
    expectPunct ')'
    return .createTable table exempt (elementColumns elements) (elementIndexes elements)

/-- `CREATE` after its keyword. -/
def create : Parser Statement := do
  if ← eatKeyword ["DATABASE", "SCHEMA"] then
    let exempt ← ifNotExists
    return .createDatabase (← name) exempt
  else if ← eatKeyword ["TABLE"] then createTable
  else
    let unique ← eatKeyword ["UNIQUE"]
    if !unique then let _ ← eatKeyword ["FULLTEXT", "SPATIAL"]
    if ← eatKeyword ["INDEX", "KEY"] then
      let indexName ← name
      if ← eatKeyword ["USING"] then let _ ← name
      expectKeyword "ON"
      let table ← tableRef
      let columns ← keyColumns
      return .createIndex table ⟨some indexName, false, unique, columns⟩
    else fail .unsupportedCreate

/-- `DROP` after its keyword. -/
def drop : Parser Statement := do
  if ← eatKeyword ["DATABASE", "SCHEMA"] then
    let exempt ← ifExists
    return .dropDatabase (← name) exempt
  else if ← eatKeyword ["INDEX", "KEY"] then
    let indexName ← name
    expectKeyword "ON"
    return .dropIndex (← tableRef) indexName
  else
    let _ ← eatKeyword ["TEMPORARY"]
    if ← eatKeyword ["TABLE", "TABLES"] then
      let exempt ← ifExists
      return .dropTable (← commaSeparated tableRef) exempt
    else fail .unsupportedDrop

/-- A change of a table that starts with `ADD`. -/
def addSpec : Parser AlterSpec := do
  constraintName
  match ← indexElement? with
  | some index => return .addIndex index
  | none =>
      if ← atKeyword ["FULLTEXT", "SPATIAL", "FOREIGN", "CHECK", "PARTITION"] then return .other
      else
        let _ ← eatKeyword ["COLUMN"]
        if ← eatPunct '(' then
          let columns ← commaSeparated columnDef
          expectPunct ')'
          return .addColumns columns .last
        else
          let column ← columnDef
          return .addColumns [column] (← position)

/-- A change of a table that starts with `DROP`. -/
def dropSpec : Parser AlterSpec := do
  if ← eatKeyword ["PRIMARY"] then
    expectKeyword "KEY"
    return .dropPrimaryKey
  else if ← eatKeyword ["INDEX", "KEY"] then return .dropIndex (← name)
  else if ← atKeyword ["FOREIGN", "CHECK", "CONSTRAINT", "PARTITION"] then return .other
  else
    let _ ← eatKeyword ["COLUMN"]
    return .dropColumn (← name)

/-- A change of a table that starts with `RENAME`. -/
def renameSpec : Parser AlterSpec := do
  if ← eatKeyword ["COLUMN"] then
    let source ← name
    expectKeyword "TO"
    return .renameColumn source (← name)
  else if ← eatKeyword ["INDEX", "KEY"] then
    let source ← name
    expectKeyword "TO"
    return .renameIndex source (← name)
  else
    let _ ← eatKeyword ["TO", "AS"]
    return .renameTable (← tableRef)

def alterSpec : Parser AlterSpec := do
  if ← eatKeyword ["ADD"] then addSpec
  else if ← eatKeyword ["DROP"] then dropSpec
  else if ← eatKeyword ["MODIFY"] then
    let _ ← eatKeyword ["COLUMN"]
    let column ← columnDef
    return .modifyColumn column (← position)
  else if ← eatKeyword ["CHANGE"] then
    let _ ← eatKeyword ["COLUMN"]
    let old ← name
    let column ← columnDef
    return .changeColumn old column (← position)
  else if ← eatKeyword ["RENAME"] then renameSpec
  else return .other

/-- The changes of a table up to the end, with a comma after each but perhaps the last; `fuel` bounds
their number. -/
def alterSpecList : (fuel : Nat) → Parser (List AlterSpec)
  | 0 => do
      expectEnd
      return []
  | fuel + 1 => fun tokens =>
      if tokens.isEmpty then .ok ([], [])
      else
        (do
          let spec ← alterSpec
          skipElement
          if ← eatPunct ',' then return spec :: (← alterSpecList fuel)
          else
            expectEnd
            return [spec] : Parser (List AlterSpec)) tokens

/-- `ALTER TABLE` after its keywords. -/
def alterTable : Parser Statement := do
  let table ← tableRef
  return .alterTable table (← fun tokens => alterSpecList tokens.length tokens)

/-- One pair of names in `RENAME TABLE`. -/
def renamePair : Parser (TableRef × TableRef) := do
  let source ← tableRef
  expectKeyword "TO"
  return (source, ← tableRef)

/-- A statement. What follows `CREATE`, `DROP` and `ALTER DATABASE` statements is passed over. -/
def statement : Parser Statement := do
  if ← eatKeyword ["CREATE"] then create
  else if ← eatKeyword ["DROP"] then drop
  else if ← eatKeyword ["ALTER"] then
    if ← eatKeyword ["DATABASE", "SCHEMA"] then return .alterDatabase (← name)
    else
      expectKeyword "TABLE"
      alterTable
  else if ← eatKeyword ["TRUNCATE"] then
    let _ ← eatKeyword ["TABLE"]
    let table ← tableRef
    expectEnd
    return .truncateTable table
  else if ← eatKeyword ["RENAME"] then
    expectKeyword "TABLE"
    let pairs ← commaSeparated renamePair
    expectEnd
    return .renameTable pairs
  else fail .unsupported

end Parser

end RowLog.Schema
