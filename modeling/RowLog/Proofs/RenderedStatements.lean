import Mathlib.Data.List.Basic
import RowLog.Proofs.PrintedTokens
import RowLog.Schema.Ddl

/-!
# The canonical text of statements

Every statement has a canonical text, in which all names are quoted. What a statement does not tell
of its columns, their types and the expressions that compute them, is chosen freely by a
`ColumnStyle`. The scanner gives back the tokens that the text is printed from, and none of them
ends the statement too early. Main statement: `Ddl.scan_render`.
-/

namespace RowLog.Schema

namespace Token

/-- Whether a token may stand inside a statement. -/
def IsInner (token : Token) : Prop :=
  token.IsProper ∧ token ≠ .punct ';'

instance (token : Token) : Decidable token.IsInner :=
  inferInstanceAs (Decidable (_ ∧ _))

/-- Whether every parenthesis has its counterpart. -/
inductive AreBalanced : List Token → Prop
  | nil : AreBalanced []
  | token {token : Token} {rest : List Token} (notOpen : token ≠ .punct '(')
      (notClose : token ≠ .punct ')') (balanced : AreBalanced rest) : AreBalanced (token :: rest)
  | group {inner rest : List Token} (inside : AreBalanced inner) (behind : AreBalanced rest) :
      AreBalanced (.punct '(' :: (inner ++ .punct ')' :: rest))

def words (texts : List String) : List Token :=
  texts.map .word

def inParentheses (tokens : List Token) : List Token :=
  .punct '(' :: (tokens ++ [.punct ')'])

/-- Elements of a list, with commas between them. -/
def separated (elements : List (List Token)) : List Token :=
  [.punct ','].intercalate elements

@[simp]
theorem separated_singleton (element : List Token) : separated [element] = element :=
  List.intercalate_singleton

@[simp]
theorem separated_cons_cons (first second : List Token) (rest : List (List Token)) :
    separated (first :: second :: rest) = first ++ .punct ',' :: separated (second :: rest) := by
  simp [separated, List.intercalate_cons_cons]

end Token

open Token

/-- Tokens in parentheses that are passed over. -/
structure Group where
  inner : List Token
  areBalanced : AreBalanced inner
  areInner : ∀ token ∈ inner, token.IsInner

def Group.tokens (group : Group) : List Token :=
  inParentheses group.inner

/-- What is written of a column and has no bearing on its definition. -/
structure ColumnStyle where
  typeName : String
  isWord : IsPlainWord typeName
  typeGroup : Option Group
  note : Option String
  /-- What computes the values of the column, if it is generated. -/
  expression : Group

def ColumnStyle.tokens (style : ColumnStyle) (column : ColumnDef) : List Token :=
  [.quoted column.name, .word style.typeName] ++ (style.typeGroup.elim [] Group.tokens ++
    (style.note.toList.map .literal ++
      ((if column.generated then words ["GENERATED", "ALWAYS", "AS"] ++ style.expression.tokens
          else []) ++
        ((if column.primary then words ["PRIMARY", "KEY"] else []) ++
          if column.unique then words ["UNIQUE"] else []))))

/-- Columns, each in its own style. -/
def columnElements (style : Nat → ColumnStyle) (columns : List ColumnDef) : List (List Token) :=
  columns.mapIdx fun place column => (style place).tokens column

def TableRef.tokens (table : TableRef) : List Token :=
  match table.schema with
  | some schema => [.quoted schema, .punct '.', .quoted table.name]
  | none => [.quoted table.name]

def Position.tokens : Position → List Token
  | .last => []
  | .first => words ["FIRST"]
  | .after column => words ["AFTER"] ++ [.quoted column]

namespace IndexDef

/-- What kind of index is declared. -/
def kind (index : IndexDef) : List String :=
  if index.primary then ["PRIMARY", "KEY"] else if index.unique then ["UNIQUE", "KEY"] else ["KEY"]

def columnTokens (index : IndexDef) : List Token :=
  inParentheses (separated (index.columns.map fun column => [.quoted column]))

def tokens (index : IndexDef) : List Token :=
  words index.kind ++ (index.name.toList.map .quoted ++ index.columnTokens)

/-- Whether an index is one that can be declared with columns. -/
def IsSupported (index : IndexDef) : Prop :=
  index.columns ≠ [] ∧ (index.primary = true → index.unique = true)

instance (index : IndexDef) : Decidable index.IsSupported :=
  inferInstanceAs (Decidable (_ ∧ _))

end IndexDef

namespace AlterSpec

def tokens (style : Nat → ColumnStyle) : AlterSpec → List Token
  | .addColumns [column] position =>
      words ["ADD", "COLUMN"] ++ ((style 0).tokens column ++ position.tokens)
  | .addColumns columns _ =>
      words ["ADD", "COLUMN"] ++ inParentheses (separated (columnElements style columns))
  | .dropColumn name => words ["DROP", "COLUMN"] ++ [.quoted name]
  | .modifyColumn column position =>
      words ["MODIFY", "COLUMN"] ++ ((style 0).tokens column ++ position.tokens)
  | .changeColumn old column position =>
      words ["CHANGE", "COLUMN"] ++ .quoted old :: ((style 0).tokens column ++ position.tokens)
  | .renameColumn source target =>
      words ["RENAME", "COLUMN"] ++ .quoted source :: (words ["TO"] ++ [.quoted target])
  | .addIndex index => words ["ADD"] ++ index.tokens
  | .dropPrimaryKey => words ["DROP", "PRIMARY", "KEY"]
  | .dropIndex name => words ["DROP", "INDEX"] ++ [.quoted name]
  | .renameIndex source target =>
      words ["RENAME", "INDEX"] ++ .quoted source :: (words ["TO"] ++ [.quoted target])
  | .renameTable target => words ["RENAME", "TO"] ++ target.tokens
  | .other => words ["FORCE"]

/-- Whether a change is one that can be read: only a single column is added at a place. -/
def IsSupported : AlterSpec → Prop
  | .addColumns columns position =>
      columns ≠ [] ∧ (columns.length = 1 ∨ position = .last)
  | .addIndex index => index.IsSupported
  | _ => True

instance (spec : AlterSpec) : Decidable spec.IsSupported := by
  cases spec <;> unfold IsSupported <;> infer_instance

end AlterSpec

namespace Statement

/-- The tokens of a statement. The columns are styled by the number of the change and their own. -/
def tokens (style : Nat → Nat → ColumnStyle) : Statement → List Token
  | .createDatabase name ifNotExists =>
      words ["CREATE", "DATABASE"] ++
        ((if ifNotExists then words ["IF", "NOT", "EXISTS"] else []) ++ [.quoted name])
  | .alterDatabase name => words ["ALTER", "DATABASE"] ++ [.quoted name]
  | .dropDatabase name ifExists =>
      words ["DROP", "DATABASE"] ++ ((if ifExists then words ["IF", "EXISTS"] else []) ++
        [.quoted name])
  | .createTable table ifNotExists columns indexes =>
      words ["CREATE", "TABLE"] ++ ((if ifNotExists then words ["IF", "NOT", "EXISTS"] else []) ++
        (table.tokens ++ inParentheses
          (separated (columnElements (style 0) columns ++ indexes.map IndexDef.tokens))))
  | .createTableLike table ifNotExists source =>
      words ["CREATE", "TABLE"] ++ ((if ifNotExists then words ["IF", "NOT", "EXISTS"] else []) ++
        (table.tokens ++ (words ["LIKE"] ++ source.tokens)))
  | .dropTable tables ifExists =>
      words ["DROP", "TABLE"] ++ ((if ifExists then words ["IF", "EXISTS"] else []) ++
        separated (tables.map TableRef.tokens))
  | .truncateTable table => words ["TRUNCATE", "TABLE"] ++ table.tokens
  | .renameTable pairs =>
      words ["RENAME", "TABLE"] ++ separated (pairs.map fun pair =>
        pair.1.tokens ++ (words ["TO"] ++ pair.2.tokens))
  | .createIndex table index =>
      words ["CREATE"] ++ ((if index.unique then words ["UNIQUE"] else []) ++ (words ["INDEX"] ++
        (index.name.toList.map .quoted ++ (words ["ON"] ++ (table.tokens ++ index.columnTokens)))))
  | .dropIndex table name =>
      words ["DROP", "INDEX"] ++ .quoted name :: (words ["ON"] ++ table.tokens)
  | .alterTable table specs =>
      words ["ALTER", "TABLE"] ++ (table.tokens ++
        separated (specs.mapIdx fun number spec => spec.tokens (style number)))

/-- Whether a statement is one that can be read: nothing is an empty list but the changes of a
table, a primary key is unique, and an index that is created on a table is a named one. -/
def IsSupported : Statement → Prop
  | .createTable _ _ columns indexes =>
      (columns ≠ [] ∨ indexes ≠ []) ∧ ∀ index ∈ indexes, index.IsSupported
  | .dropTable tables _ => tables ≠ []
  | .renameTable pairs => pairs ≠ []
  | .createIndex _ index => index.name.isSome ∧ index.primary = false ∧ index.columns ≠ []
  | .alterTable _ specs => ∀ spec ∈ specs, spec.IsSupported
  | _ => True

instance (statement : Statement) : Decidable statement.IsSupported := by
  cases statement <;> unfold IsSupported <;> infer_instance

end Statement

namespace Ddl

def tokens (style : Nat → Nat → ColumnStyle) (ddl : Ddl) : List Token :=
  (match ddl.currentSchema with
    | some schema => words ["USE"] ++ [.quoted schema, .punct ';']
    | none => []) ++ ddl.statement.tokens style

/-- The canonical text of a statement, after `USE` if a database is selected for it. -/
def render (style : Nat → Nat → ColumnStyle) (ddl : Ddl) : String :=
  String.ofList (printAll (ddl.tokens style))

end Ddl

/-! ### What the tokens of a statement are -/

/-- Whether tokens may stand inside a statement. -/
abbrev Token.AreInner (tokens : List Token) : Prop :=
  ∀ token ∈ tokens, token.IsInner

namespace Token

theorem isInner_quoted (name : String) : (Token.quoted name).IsInner :=
  ⟨trivial, by simp⟩

theorem isInner_literal (text : String) : (Token.literal text).IsInner :=
  ⟨trivial, by simp⟩

namespace AreInner

variable {token : Token} {first second : List Token} {condition : Prop} [Decidable condition]

theorem nil : AreInner [] :=
  List.forall_mem_nil _

theorem cons (isInner : token.IsInner) (later : AreInner first) : AreInner (token :: first) :=
  List.forall_mem_cons.mpr ⟨isInner, later⟩

theorem append (firstInner : AreInner first) (secondInner : AreInner second) :
    AreInner (first ++ second) :=
  List.forall_mem_append.mpr ⟨firstInner, secondInner⟩

theorem quoted (name : String) (later : AreInner first) : AreInner (.quoted name :: first) :=
  later.cons (isInner_quoted name)

theorem option (kind : String → Token) (text : Option String)
    (isInner : ∀ text, (kind text).IsInner) : AreInner (text.toList.map kind) :=
  List.forall_mem_map.mpr fun text _ => isInner text

theorem ite (inner : AreInner first) : AreInner (if condition then first else []) := by
  split
  · exact inner
  · exact nil

theorem words {texts : List String} (plain : ∀ text ∈ texts, IsPlainWord text) :
    AreInner (words texts) :=
  List.forall_mem_map.mpr fun text textMem => ⟨plain text textMem, by simp⟩

theorem inParentheses (inner : AreInner first) : AreInner (inParentheses first) := by
  have opens : (Token.punct '(').IsInner := by decide +kernel
  have closes : (Token.punct ')').IsInner := by decide +kernel
  exact .cons opens (inner.append (.cons closes .nil))

theorem separated {elements : List (List Token)} (inner : ∀ element ∈ elements, AreInner element) :
    AreInner (separated elements) := by
  have comma : (Token.punct ',').IsInner := by decide +kernel
  induction elements with
  | nil => exact nil
  | cons first rest ih =>
      have firstInner := inner first (by simp)
      cases rest with
      | nil => simpa using firstInner
      | cons second rest =>
          rw [separated_cons_cons]
          have later := ih fun element elementMem => inner element (by simp [elementMem])
          exact firstInner.append (.cons comma later)

end AreInner

end Token

open Token

theorem Group.areInner_tokens (group : Group) : AreInner group.tokens :=
  .inParentheses group.areInner

theorem ColumnStyle.areInner_tokens (style : ColumnStyle) (column : ColumnDef) :
    AreInner (style.tokens column) := by
  have typeInner : (Token.word style.typeName).IsInner := ⟨style.isWord, by simp⟩
  have groupInner : AreInner (style.typeGroup.elim [] Group.tokens) := by
    cases style.typeGroup with
    | none => exact .nil
    | some group => exact group.areInner_tokens
  have noteInner : AreInner (style.note.toList.map .literal) := .option _ _ isInner_literal
  have generatedInner : AreInner (if column.generated then
      words ["GENERATED", "ALWAYS", "AS"] ++ style.expression.tokens else []) :=
    .ite (.append (.words (by decide +kernel)) style.expression.areInner_tokens)
  have primaryInner : AreInner (if column.primary then words ["PRIMARY", "KEY"] else []) :=
    .ite (.words (by decide +kernel))
  have uniqueInner : AreInner (if column.unique then words ["UNIQUE"] else []) :=
    .ite (.words (by decide +kernel))
  exact .append (.quoted _ (.cons typeInner .nil)) (groupInner.append (noteInner.append
    (generatedInner.append (primaryInner.append uniqueInner))))

theorem areInner_of_mem_columnElements {style : Nat → ColumnStyle} {columns : List ColumnDef}
    {element : List Token} (elementMem : element ∈ columnElements style columns) :
    AreInner element := by
  rcases List.mem_mapIdx.mp elementMem with ⟨place, inside, rfl⟩
  exact (style place).areInner_tokens _

theorem TableRef.areInner_tokens (table : TableRef) : AreInner table.tokens := by
  have dot : (Token.punct '.').IsInner := by decide +kernel
  unfold TableRef.tokens
  split
  · exact .quoted _ (.cons dot (.quoted _ .nil))
  · exact .quoted _ .nil

theorem Position.areInner_tokens (position : Position) : AreInner position.tokens := by
  cases position with
  | last => exact .nil
  | first => exact .words (by decide +kernel)
  | after column => exact .append (.words (by decide +kernel)) (.quoted _ .nil)

namespace IndexDef

theorem areInner_columnTokens (index : IndexDef) : AreInner index.columnTokens := by
  refine .inParentheses (.separated fun element elementMem => ?_)
  rcases List.mem_map.mp elementMem with ⟨column, -, rfl⟩
  exact .quoted _ .nil

theorem areInner_tokens (index : IndexDef) : AreInner index.tokens := by
  have kindInner : AreInner (words index.kind) := by
    unfold kind
    split
    · exact .words (by decide +kernel)
    · split <;> exact .words (by decide +kernel)
  exact .append kindInner
    (.append (.option _ _ isInner_quoted) index.areInner_columnTokens)

end IndexDef

theorem AlterSpec.areInner_tokens (style : Nat → ColumnStyle) (spec : AlterSpec) :
    AreInner (spec.tokens style) := by
  have addsColumn : AreInner (words ["ADD", "COLUMN"]) := .words (by decide +kernel)
  have target : AreInner (words ["TO"]) := .words (by decide +kernel)
  unfold AlterSpec.tokens
  split
  · next column position =>
      exact addsColumn.append (.append ((style 0).areInner_tokens column) position.areInner_tokens)
  · exact addsColumn.append
      (.inParentheses (.separated fun _ => areInner_of_mem_columnElements))
  · exact .append (.words (by decide +kernel)) (.quoted _ .nil)
  · next column position =>
      exact .append (.words (by decide +kernel))
        (.append ((style 0).areInner_tokens column) position.areInner_tokens)
  · next old column position =>
      exact .append (.words (by decide +kernel))
        (.quoted _ (.append ((style 0).areInner_tokens column) position.areInner_tokens))
  · exact .append (.words (by decide +kernel)) (.quoted _ (target.append (.quoted _ .nil)))
  · next index => exact .append (.words (by decide +kernel)) index.areInner_tokens
  · exact .words (by decide +kernel)
  · exact .append (.words (by decide +kernel)) (.quoted _ .nil)
  · exact .append (.words (by decide +kernel)) (.quoted _ (target.append (.quoted _ .nil)))
  · next table => exact .append (.words (by decide +kernel)) table.areInner_tokens
  · exact .words (by decide +kernel)

theorem Statement.areInner_tokens (style : Nat → Nat → ColumnStyle) (statement : Statement) :
    AreInner (statement.tokens style) := by
  have unlessExists (flag : Bool) :
      AreInner (if flag then words ["IF", "NOT", "EXISTS"] else []) :=
    .ite (.words (by decide +kernel))
  have ifExists (flag : Bool) : AreInner (if flag then words ["IF", "EXISTS"] else []) :=
    .ite (.words (by decide +kernel))
  cases statement with
  | createDatabase name ifNotExists =>
      exact .append (.words (by decide +kernel))
        (.append (unlessExists ifNotExists) (.quoted _ .nil))
  | alterDatabase name => exact .append (.words (by decide +kernel)) (.quoted _ .nil)
  | dropDatabase name exempt =>
      exact .append (.words (by decide +kernel)) (.append (ifExists exempt) (.quoted _ .nil))
  | createTable table ifNotExists columns indexes =>
      refine .append (.words (by decide +kernel)) (.append (unlessExists ifNotExists)
        (.append table.areInner_tokens (.inParentheses (.separated fun element elementMem => ?_))))
      rcases List.mem_append.mp elementMem with isColumn | isIndex
      · exact areInner_of_mem_columnElements isColumn
      · rcases List.mem_map.mp isIndex with ⟨index, -, rfl⟩
        exact index.areInner_tokens
  | createTableLike table ifNotExists source =>
      exact .append (.words (by decide +kernel)) (.append (unlessExists ifNotExists)
        (.append table.areInner_tokens
          (.append (.words (by decide +kernel)) source.areInner_tokens)))
  | dropTable tables exempt =>
      refine .append (.words (by decide +kernel)) (.append (ifExists exempt)
        (.separated fun element elementMem => ?_))
      rcases List.mem_map.mp elementMem with ⟨table, -, rfl⟩
      exact table.areInner_tokens
  | truncateTable table => exact .append (.words (by decide +kernel)) table.areInner_tokens
  | renameTable pairs =>
      refine .append (.words (by decide +kernel)) (.separated fun element elementMem => ?_)
      rcases List.mem_map.mp elementMem with ⟨pair, -, rfl⟩
      exact .append pair.1.areInner_tokens
        (.append (.words (by decide +kernel)) pair.2.areInner_tokens)
  | createIndex table index =>
      exact .append (.words (by decide +kernel)) (.append (.ite (.words (by decide +kernel)))
        (.append (.words (by decide +kernel)) (.append (.option _ _ isInner_quoted)
          (.append (.words (by decide +kernel))
            (.append table.areInner_tokens index.areInner_columnTokens)))))
  | dropIndex table name =>
      exact .append (.words (by decide +kernel))
        (.quoted _ (.append (.words (by decide +kernel)) table.areInner_tokens))
  | alterTable table specs =>
      refine .append (.words (by decide +kernel)) (.append table.areInner_tokens
        (.separated fun element elementMem => ?_))
      rcases List.mem_mapIdx.mp elementMem with ⟨number, inside, rfl⟩
      exact specs[number].areInner_tokens (style number)

namespace Ddl

/-- The tokens of a text are those that it is printed from. -/
theorem scan_render (style : Nat → Nat → ColumnStyle) (ddl : Ddl) :
    scan (ddl.render style).toList = .ok (ddl.tokens style) := by
  have inner := ddl.statement.areInner_tokens style
  have proper : ∀ token ∈ ddl.tokens style, token.IsProper := by
    have use : IsPlainWord "USE" := by decide +kernel
    have semicolon : isMark ';' = true := by decide +kernel
    refine List.forall_mem_append.mpr ⟨?_, fun token tokenMem => (inner token tokenMem).1⟩
    cases ddl.currentSchema with
    | none => simp
    | some schema => simp [words, IsProper, use, semicolon]
  rw [render, String.toList_ofList, scan_printAll _ proper]

end Ddl

end RowLog.Schema
