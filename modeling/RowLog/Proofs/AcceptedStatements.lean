import RowLog.Proofs.Lists
import RowLog.Proofs.RenderedStatements

/-!
# The parser accepts every statement

The parser reads each part of a statement from the tokens of its canonical text and stops where the
next part starts: names and literals are single tokens whatever characters they have, and what
stands in parentheses is passed over as a whole. Main statement: `Ddl.parse_render`.
-/

namespace RowLog.Schema

open Token

namespace Parser

variable {α β : Type} {tokens middle rest : List Token} {character : Char}

/-- Whether a parser reads a value from some tokens and stops at others. -/
def Parses (parser : Parser α) (tokens : List Token) (value : α) (rest : List Token) : Prop :=
  parser tokens = .ok (value, rest)

/-- What may stand behind a list. -/
inductive EndsList : List Token → Prop
  | nothing : EndsList []
  | close (rest : List Token) : EndsList (.punct ')' :: rest)

/-- What may stand behind an element of a list. -/
inductive EndsElement : List Token → Prop
  | nothing : EndsElement []
  | comma (rest : List Token) : EndsElement (.punct ',' :: rest)
  | close (rest : List Token) : EndsElement (.punct ')' :: rest)

/-- What may stand behind a column. -/
inductive EndsColumn : List Token → Prop
  | element {rest : List Token} (ends : EndsElement rest) : EndsColumn rest
  | first (rest : List Token) : EndsColumn (.word "FIRST" :: rest)
  | after (rest : List Token) : EndsColumn (.word "AFTER" :: rest)

/-- Whether a parser reads a value from some tokens wherever they are an element of a list. -/
def ReadsElement (item : Parser α) (tokens : List Token) (value : α) : Prop :=
  ∀ rest, EndsElement rest → Parses item (tokens ++ rest) value rest

namespace Parses

theorem pure (value : α) (tokens : List Token) :
    Parses (Pure.pure value : Parser α) tokens value tokens := rfl

theorem bind {parser : Parser α} {next : α → Parser β} {value : α} {final : β}
    (first : Parses parser tokens value middle) (later : Parses (next value) middle final rest) :
    Parses (parser >>= next) tokens final rest := by
  unfold Parses at first later
  simp [Parses, Bind.bind, StateT.bind, Except.bind, first, later]

theorem noPunct (differs : tokens.head? ≠ some (.punct character)) :
    Parses (eatPunct character) tokens false tokens := by
  cases tokens with
  | nil => rfl
  | cons token tokens =>
      have isNot : token ≠ .punct character := by simpa using differs
      simp [Parses, eatPunct, isNot]

theorem punct (character : Char) (rest : List Token) :
    Parses (eatPunct character) (.punct character :: rest) true rest := by
  simp [Parses, eatPunct]

theorem expectPunct (character : Char) (rest : List Token) :
    Parses (expectPunct character) (.punct character :: rest) () rest := by
  simp [Parses, Parser.expectPunct]

theorem expectEnd : Parses expectEnd [] () [] := rfl

theorem name (text : String) (rest : List Token) :
    Parses Parser.name (.quoted text :: rest) text rest := rfl

theorem notAtPunct (differs : tokens.head? ≠ some (.punct character)) :
    Parses (atPunct character) tokens false tokens := by
  simp [Parses, atPunct, differs]

end Parses

theorem EndsList.endsElement (ends : EndsList rest) : EndsElement rest := by
  cases ends with
  | nothing => exact .nothing
  | close rest => exact .close rest

theorem EndsList.noComma (ends : EndsList rest) : Parses (eatPunct ',') rest false rest := by
  cases ends <;> rfl

namespace EndsElement

theorem head?_ne (ends : EndsElement rest) (differs : character ∉ [',', ')']) :
    rest.head? ≠ some (.punct character) := by
  cases ends <;> simp_all [eq_comm]

theorem noKeyword (ends : EndsElement rest) (keywords : List String) :
    Parses (eatKeyword keywords) rest false rest := by
  cases ends <;> simp [Parses, eatKeyword, isKeyword]

theorem skipElement (ends : EndsElement rest) : Parses skipElement rest () rest := by
  cases ends <;> rfl

end EndsElement

/-! ### Lists -/

theorem length_separated (parts : List (List Token)) :
    parts.length + parts.flatten.length ≤ (separated parts).length + 1 := by
  induction parts with
  | nil => simp
  | cons first rest ih =>
      cases rest with
      | nil => simp [Nat.add_comm]
      | cons second rest =>
          simp only [separated_cons_cons, List.length_append, List.length_cons,
            List.flatten_cons] at ih ⊢
          omega

theorem exists_separated_eq (token : Token) (others : List Token) (parts : List (List Token)) :
    ∃ rest, separated ((token :: others) :: parts) = token :: rest := by
  cases parts with
  | nil => exact ⟨others, by simp⟩
  | cons second parts => exact ⟨_, separated_cons_cons _ second parts⟩

theorem parses_commaList {item : Parser α} {parts : List (List Token)} {values : List α}
    {fuel : Nat} (elements : List.Forall₂ (ReadsElement item) parts values) (notEmpty : values ≠ [])
    (enough : values.length ≤ fuel + 1) (ends : EndsList rest) :
    Parses (commaList item fuel) (separated parts ++ rest) values rest := by
  induction elements generalizing fuel with
  | nil => contradiction
  | cons first later ih =>
      cases later with
      | nil =>
          rw [separated_singleton]
          have last := first rest ends.endsElement
          cases fuel with
          | zero => exact last.bind (.pure _ _)
          | succ fuel => exact last.bind (ends.noComma.bind (.pure _ _))
      | cons second others =>
          cases fuel with
          | zero => simp at enough
          | succ fuel =>
              rw [separated_cons_cons, List.append_assoc, List.cons_append]
              have following := ih (by simp) (by simpa using enough)
              exact (first _ (.comma _)).bind ((Parses.punct ',' _).bind
                (following.bind (.pure _ _)))

theorem parses_commaSeparated {item : Parser α} {parts : List (List Token)} {values : List α}
    (elements : List.Forall₂ (ReadsElement item) parts values) (notEmpty : values ≠ [])
    (ends : EndsList rest) :
    Parses (commaSeparated item) (separated parts ++ rest) values rest := by
  have length := elements.length_eq
  have shorter := length_separated parts
  refine parses_commaList elements notEmpty ?_ ends
  rw [List.length_append]
  omega

theorem forall₂_columnElements {item : Parser α} {value : ColumnDef → α}
    (reads : ∀ (style : ColumnStyle) column, ReadsElement item (style.tokens column) (value column))
    (style : Nat → ColumnStyle) (columns : List ColumnDef) :
    List.Forall₂ (ReadsElement item) (columnElements style columns) (columns.map value) :=
  forall₂_mapIdx_map columns fun place column _ => reads (style place) column

/-! ### Tables -/

theorem parses_tableRef (table : TableRef) (noDot : rest.head? ≠ some (.punct '.')) :
    Parses tableRef (table.tokens ++ rest) table rest := by
  rcases table with ⟨schema, text⟩
  cases schema with
  | none => exact (Parses.name text _).bind ((Parses.noPunct noDot).bind (.pure _ _))
  | some schema => rfl

theorem readsElement_tableRef (table : TableRef) : ReadsElement tableRef table.tokens table :=
  fun _ ends => parses_tableRef table (ends.head?_ne (by decide))

theorem readsElement_renamePair (pair : TableRef × TableRef) :
    ReadsElement renamePair (pair.1.tokens ++ (words ["TO"] ++ pair.2.tokens)) pair := by
  intro rest ends
  have target (behind : List Token) :
      Parses (expectKeyword "TO") (words ["TO"] ++ behind) () behind := rfl
  rw [List.append_assoc, List.append_assoc]
  exact (parses_tableRef pair.1 (by simp [words])).bind
    ((target _).bind ((readsElement_tableRef pair.2 rest ends).bind (.pure _ _)))

theorem exists_tableTokens_eq (table : TableRef) :
    ∃ name rest, table.tokens = .quoted name :: rest := by
  rcases table with ⟨_ | schema, text⟩
  · exact ⟨text, [], rfl⟩
  · exact ⟨schema, _, rfl⟩

theorem parses_ifNotExists (flag : Bool) (table : TableRef) (rest : List Token) :
    Parses ifNotExists
      ((if flag then words ["IF", "NOT", "EXISTS"] else []) ++ (table.tokens ++ rest)) flag
      (table.tokens ++ rest) := by
  rcases exists_tableTokens_eq table with ⟨name, others, tableEq⟩
  rw [tableEq]
  cases flag <;> rfl

theorem parses_ifExists (flag : Bool) (name : String) (rest : List Token) :
    Parses ifExists
      ((if flag then words ["IF", "EXISTS"] else []) ++ .quoted name :: rest) flag
      (.quoted name :: rest) := by
  cases flag <;> rfl

/-! ### Columns -/

theorem columnOptions_inside {inner : List Token} (balanced : AreBalanced inner) (depth : Nat)
    (column : ColumnDef) (rest : List Token) :
    columnOptions (depth + 1) column (inner ++ rest) = columnOptions (depth + 1) column rest := by
  induction balanced generalizing depth rest with
  | nil => rfl
  | token notOpen notClose balanced ih =>
      rw [List.cons_append, columnOptions, if_neg notOpen, if_neg notClose, ih]
  | group inside behind insideIh behindIh =>
      rw [List.cons_append, List.append_assoc, List.cons_append, columnOptions, if_pos rfl,
        insideIh, columnOptions, if_neg (by decide), if_pos rfl, behindIh]

theorem columnOptions_group (group : Group) (column : ColumnDef) (rest : List Token) :
    columnOptions 0 column (group.tokens ++ rest) = columnOptions 0 column rest := by
  have opens (behind : List Token) :
      columnOptions 0 column (.punct '(' :: behind) = columnOptions 1 column behind := by
    rw [columnOptions.eq_def]
    rfl
  rw [Group.tokens, inParentheses, List.cons_append, List.append_assoc, List.singleton_append,
    opens, columnOptions_inside group.areBalanced, columnOptions, if_neg (by decide), if_pos rfl]

theorem columnOptions_optionalGroup (group : Option Group) (column : ColumnDef)
    (rest : List Token) :
    columnOptions 0 column (group.elim [] Group.tokens ++ rest) = columnOptions 0 column rest := by
  cases group with
  | none => rfl
  | some group => exact columnOptions_group group column rest

theorem columnOptions_note (note : Option String) (column : ColumnDef) (rest : List Token) :
    columnOptions 0 column (note.toList.map .literal ++ rest) = columnOptions 0 column rest := by
  cases note with
  | none => rfl
  | some text => rw [columnOptions.eq_def]; rfl

theorem columnOptions_generated (flag : Bool) (expression : Group) (column : ColumnDef)
    (rest : List Token) :
    columnOptions 0 column ((if flag then words ["GENERATED", "ALWAYS", "AS"] ++ expression.tokens
        else []) ++ rest) =
      columnOptions 0 { column with generated := column.generated || flag } rest := by
  cases flag with
  | false => simp
  | true =>
      have keywords (behind : List Token) :
          columnOptions 0 column (words ["GENERATED", "ALWAYS", "AS"] ++ behind) =
            columnOptions 0 { column with generated := true } behind := calc
        _ = columnOptions 0 { column with generated := true }
            (words ["ALWAYS", "AS"] ++ behind) := rfl
        _ = columnOptions 0 { column with generated := true } (words ["AS"] ++ behind) := rfl
        _ = columnOptions 0 { column with generated := true } behind := by
          rw [columnOptions.eq_def]
          rfl
      rw [if_pos rfl, List.append_assoc, keywords, columnOptions_group, Bool.or_true]

theorem columnOptions_primary (flag : Bool) (column : ColumnDef) (rest : List Token) :
    columnOptions 0 column ((if flag then words ["PRIMARY", "KEY"] else []) ++ rest) =
      columnOptions 0 { column with primary := column.primary || flag } rest := by
  cases flag with
  | false => simp
  | true =>
      rw [if_pos rfl, Bool.or_true]
      rfl

theorem columnOptions_end (ends : EndsColumn rest) (column : ColumnDef) :
    columnOptions 0 column rest = .ok (column, rest) := by
  rcases ends with ⟨_ | rest | rest⟩ | rest | rest <;> rw [columnOptions.eq_def] <;> rfl

theorem columnOptions_unique (flag : Bool) (column : ColumnDef) (ends : EndsColumn rest) :
    columnOptions 0 column ((if flag then words ["UNIQUE"] else []) ++ rest) =
      columnOptions 0 { column with unique := column.unique || flag } rest := by
  cases flag with
  | false => simp
  | true =>
      rcases ends with ⟨_ | rest | rest⟩ | rest | rest
      all_goals
        rw [columnOptions.eq_def]
        simp
        rfl

theorem parses_columnDef (style : ColumnStyle) (column : ColumnDef) (ends : EndsColumn rest) :
    Parses columnDef (style.tokens column ++ rest) column rest := by
  have name (behind : List Token) :
      Parses columnDef ([.quoted column.name, .word style.typeName] ++ behind) column rest ↔
        columnOptions 0 ⟨column.name, false, false, false⟩ behind = .ok (column, rest) := Iff.rfl
  rw [ColumnStyle.tokens, List.append_assoc, name]
  simp only [List.append_assoc]
  rw [columnOptions_optionalGroup, columnOptions_note, columnOptions_generated,
    columnOptions_primary, columnOptions_unique _ _ ends, columnOptions_end ends]
  simp

theorem readsElement_columnDef (style : ColumnStyle) (column : ColumnDef) :
    ReadsElement columnDef (style.tokens column) column :=
  fun _ ends => parses_columnDef style column (.element ends)

theorem parses_position (position : Position) (ends : EndsElement rest) :
    Parses Parser.position (position.tokens ++ rest) position rest := by
  cases position with
  | last => exact (ends.noKeyword _).bind ((ends.noKeyword _).bind (.pure _ _))
  | first => rfl
  | after column => rfl

theorem endsColumn_position (position : Position) (ends : EndsElement rest) :
    EndsColumn (position.tokens ++ rest) := by
  cases position with
  | last => exact .element ends
  | first => exact .first rest
  | after column => exact .after (.quoted column :: rest)

/-- A column and its place among the others. -/
theorem parses_placedColumn (next : ColumnDef → Position → α) (style : ColumnStyle)
    (column : ColumnDef) (position : Position) (ends : EndsElement rest) :
    Parses (do let found ← columnDef; return next found (← Parser.position))
      (style.tokens column ++ (position.tokens ++ rest)) (next column position) rest :=
  (parses_columnDef style column (endsColumn_position position ends)).bind
    ((parses_position position ends).bind (.pure _ _))

/-! ### Indexes -/

theorem readsElement_keyPart (column : String) :
    ReadsElement keyPart [.quoted column] (some column) := by
  intro rest ends
  have noGroup : Parses (atPunct '(') (.quoted column :: rest) false (.quoted column :: rest) := rfl
  have noPrefix : Parses (atPunct '(') rest false rest := .notAtPunct (ends.head?_ne (by decide))
  exact noGroup.bind ((Parses.name column rest).bind (noPrefix.bind
    ((Parses.pure (some column) _).bind ((ends.noKeyword _).bind (.pure _ _)))))

theorem parses_keyColumns {index : IndexDef} (notEmpty : index.columns ≠ [])
    (rest : List Token) : Parses keyColumns (index.columnTokens ++ rest) index.columns rest := by
  have columnsEq : (index.columns.map some).reduceOption = index.columns := by
    change (index.columns.map some).filterMap id = index.columns
    simp
  have parts : Parses (commaSeparated keyPart)
      (separated (index.columns.map fun column => [.quoted column]) ++ .punct ')' :: rest)
      (index.columns.map some) (.punct ')' :: rest) :=
    parses_commaSeparated
      (forall₂_map_map index.columns fun column _ => readsElement_keyPart column)
      (by simpa using notEmpty) (.close rest)
  rw [IndexDef.columnTokens, inParentheses, List.cons_append, List.append_assoc,
    List.singleton_append]
  have all : Parses keyParts (.punct '(' ::
      (separated (index.columns.map fun column => [.quoted column]) ++ .punct ')' :: rest))
      (index.columns.map some) rest :=
    (Parses.expectPunct '(' _).bind (parts.bind ((Parses.expectPunct ')' _).bind (.pure _ _)))
  have read : Parses keyColumns _ (index.columns.map some).reduceOption rest :=
    all.bind (.pure _ _)
  rwa [columnsEq] at read

theorem parses_indexBody {index : IndexDef} (notEmpty : index.columns ≠ [])
    (ends : EndsElement rest) :
    Parses (indexBody index.primary index.unique)
      (index.name.toList.map .quoted ++ (index.columnTokens ++ rest)) index rest := by
  have columns := parses_keyColumns notEmpty rest
  have skips := ends.skipElement
  have afterName : Parses (do
      let found ← keyColumns
      Parser.skipElement
      return (⟨index.name, index.primary, index.unique, found⟩ : IndexDef))
      (index.columnTokens ++ rest) index rest :=
    columns.bind (skips.bind (.pure _ _))
  rcases index with ⟨name, primary, unique, columnNames⟩
  cases name with
  | none => exact afterName
  | some name => exact afterName

theorem parses_indexElement? {index : IndexDef} (supported : index.IsSupported)
    (ends : EndsElement rest) :
    Parses indexElement? (index.tokens ++ rest) (some index) rest := by
  have body := parses_indexBody supported.1 ends
  rw [IndexDef.tokens, List.append_assoc, List.append_assoc]
  have found : Parses (do return some (← indexBody index.primary index.unique))
      (index.name.toList.map .quoted ++ (index.columnTokens ++ rest)) (some index) rest :=
    body.bind (.pure _ _)
  rcases index with ⟨name, primary, unique, columns⟩
  cases primary with
  | true =>
      have isUnique : unique = true := supported.2 rfl
      rw [isUnique] at found ⊢
      exact found
  | false =>
      cases unique with
      | true => exact found
      | false => exact found

theorem parses_constraintName (index : IndexDef) (rest : List Token) :
    Parses constraintName (index.tokens ++ rest) () (index.tokens ++ rest) := by
  rcases index with ⟨name, _ | _, _ | _, columns⟩ <;> rfl

theorem readsElement_index {index : IndexDef} (supported : index.IsSupported) :
    ReadsElement tableElement index.tokens (.index index) :=
  fun rest ends => (parses_constraintName index rest).bind
    ((parses_indexElement? supported ends).bind (.pure _ _))

theorem readsElement_column (style : ColumnStyle) (column : ColumnDef) :
    ReadsElement tableElement (style.tokens column) (.column column) := by
  intro rest ends
  have read : Parses (do return TableElement.column (← columnDef)) (style.tokens column ++ rest)
      (.column column) rest :=
    (readsElement_columnDef style column rest ends).bind (.pure _ _)
  exact read

/-! ### Changes of a table -/

theorem exists_specTokens_eq (style : Nat → ColumnStyle) (spec : AlterSpec) :
    ∃ keyword rest, spec.tokens style = .word keyword :: rest := by
  unfold AlterSpec.tokens
  split <;> exact ⟨_, _, rfl⟩

/-- Whether some tokens are read as a change wherever they are an element of a list. What the parser
leaves of them is passed over. -/
def ReadsSpec (tokens : List Token) (spec : AlterSpec) : Prop :=
  ∀ rest, EndsElement rest → ∃ middle,
    Parses alterSpec (tokens ++ rest) spec middle ∧ Parses skipElement middle () rest

theorem ReadsElement.readsSpec {spec : AlterSpec} (read : ReadsElement alterSpec tokens spec) :
    ReadsSpec tokens spec :=
  fun rest ends => ⟨rest, read rest ends, ends.skipElement⟩

theorem readsSpec_addColumns (style : Nat → ColumnStyle) {columns : List ColumnDef}
    {position : Position} (supported : (AlterSpec.addColumns columns position).IsSupported) :
    ReadsSpec ((AlterSpec.addColumns columns position).tokens style)
      (.addColumns columns position) := by
  refine ReadsElement.readsSpec fun rest ends => ?_
  rcases supported with ⟨notEmpty, place⟩
  match columns with
  | [] => contradiction
  | [column] =>
      have read := parses_placedColumn (fun column => AlterSpec.addColumns [column]) (style 0)
        column position ends
      simp only [AlterSpec.tokens, List.append_assoc]
      exact read
  | first :: second :: others =>
      have isLast : position = .last := by simpa using place
      have columnsRead : Parses (do
          let columns ← commaSeparated columnDef
          expectPunct ')'
          return AlterSpec.addColumns columns .last)
          (separated (columnElements style (first :: second :: others)) ++ .punct ')' :: rest)
          (.addColumns (first :: second :: others) .last) rest := by
        have elements := forall₂_columnElements readsElement_columnDef style
          (first :: second :: others)
        rw [List.map_id'] at elements
        exact (parses_commaSeparated elements notEmpty (.close rest)).bind
          ((Parses.expectPunct ')' _).bind (.pure _ _))
      rw [isLast]
      simp only [AlterSpec.tokens, inParentheses, List.append_assoc, List.cons_append,
        List.nil_append]
      exact columnsRead

theorem readsSpec_tokens (style : Nat → ColumnStyle) {spec : AlterSpec}
    (supported : spec.IsSupported) : ReadsSpec (spec.tokens style) spec := by
  cases spec with
  | addColumns columns position => exact readsSpec_addColumns style supported
  | dropColumn name => exact ReadsElement.readsSpec fun rest ends => rfl
  | modifyColumn column position =>
      refine ReadsElement.readsSpec fun rest ends => ?_
      have read := parses_placedColumn AlterSpec.modifyColumn (style 0) column position ends
      simp only [AlterSpec.tokens, List.append_assoc]
      exact read
  | changeColumn old column position =>
      refine ReadsElement.readsSpec fun rest ends => ?_
      have read := parses_placedColumn (AlterSpec.changeColumn old) (style 0) column position ends
      simp only [AlterSpec.tokens, List.append_assoc, List.cons_append]
      exact read
  | renameColumn source target => exact ReadsElement.readsSpec fun rest ends => rfl
  | addIndex index =>
      refine ReadsElement.readsSpec fun rest ends => ?_
      have read : Parses addSpec (index.tokens ++ rest) (.addIndex index) rest :=
        (parses_constraintName index rest).bind
          ((parses_indexElement? supported ends).bind (.pure _ _))
      exact read
  | dropPrimaryKey => exact ReadsElement.readsSpec fun rest ends => rfl
  | dropIndex name => exact ReadsElement.readsSpec fun rest ends => rfl
  | renameIndex source target => exact ReadsElement.readsSpec fun rest ends => rfl
  | renameTable target =>
      refine ReadsElement.readsSpec fun rest ends => ?_
      have read : Parses (do return AlterSpec.renameTable (← tableRef)) (target.tokens ++ rest)
          (.renameTable target) rest :=
        (readsElement_tableRef target rest ends).bind (.pure _ _)
      exact read
  | other =>
      intro rest ends
      exact ⟨words ["FORCE"] ++ rest, rfl, by cases ends <;> rfl⟩

/-- Whether some tokens start with a keyword and are read as a change. -/
def WritesSpec (tokens : List Token) (spec : AlterSpec) : Prop :=
  (∃ keyword rest, tokens = .word keyword :: rest) ∧ ReadsSpec tokens spec

theorem parses_alterSpecList {parts : List (List Token)} {specs : List AlterSpec} {fuel : Nat}
    (written : List.Forall₂ WritesSpec parts specs) (enough : specs.length ≤ fuel) :
    Parses (alterSpecList fuel) (separated parts) specs [] := by
  induction written generalizing fuel with
  | nil => cases fuel <;> rfl
  | cons first later ih =>
      cases fuel with
      | zero => simp at enough
      | succ fuel =>
          rcases first with ⟨⟨keyword, others, rfl⟩, reads⟩
          cases later with
          | nil =>
              rcases reads [] .nothing with ⟨middle, read, skips⟩
              rw [List.append_nil] at read
              rw [separated_singleton]
              exact read.bind (skips.bind (EndsList.nothing.noComma.bind
                (Parses.expectEnd.bind (.pure _ _))))
          | cons second rest =>
              rw [separated_cons_cons]
              rcases reads _ (.comma _) with ⟨middle, read, skips⟩
              have following := ih (by simpa using enough)
              exact read.bind (skips.bind ((Parses.punct ',' _).bind
                (following.bind (.pure _ _))))

theorem parses_alterTable (style : Nat → Nat → ColumnStyle) (table : TableRef)
    {specs : List AlterSpec} (supported : ∀ spec ∈ specs, spec.IsSupported) :
    Parses alterTable
      (table.tokens ++ separated (specs.mapIdx fun number spec => spec.tokens (style number)))
      (.alterTable table specs) [] := by
  have written : List.Forall₂ WritesSpec
      (specs.mapIdx fun number spec => spec.tokens (style number)) (specs.map id) :=
    forall₂_mapIdx_map specs fun number spec specMem =>
      ⟨exists_specTokens_eq (style number) spec,
        readsSpec_tokens (style number) (supported spec specMem)⟩
  rw [List.map_id] at written
  generalize (specs.mapIdx fun number spec => spec.tokens (style number)) = parts at written
  -- The first change starts with a keyword, so that the name of the table ends before it.
  have starts : (separated parts).head? ≠ some (.punct '.') ∧
      specs.length ≤ (separated parts).length := by
    have lengthEq := written.length_eq
    have length := length_separated parts
    cases written with
    | nil => simp [separated]
    | @cons _ _ laterParts _ first later =>
        rcases first with ⟨⟨keyword, others, rfl⟩, -⟩
        rcases exists_separated_eq (.word keyword) others laterParts with ⟨rest, separatedEq⟩
        simp only [List.flatten_cons, List.length_append, List.length_cons] at lengthEq length ⊢
        exact ⟨by simp [separatedEq], by omega⟩
  exact (parses_tableRef table starts.1).bind
    (Parses.bind (parses_alterSpecList written starts.2) (.pure _ _))

/-! ### Statements -/

theorem elementColumns_append (columns : List ColumnDef) (indexes : List IndexDef) :
    elementColumns (columns.map .column ++ indexes.map .index) = columns := by
  simp [elementColumns, List.filterMap_append, List.filterMap_map]

theorem elementIndexes_append (columns : List ColumnDef) (indexes : List IndexDef) :
    elementIndexes (columns.map .column ++ indexes.map .index) = indexes := by
  simp [elementIndexes, List.filterMap_append, List.filterMap_map]

/-- An element in the declaration of a table starts with a name or the keyword of an index. -/
theorem exists_element_eq (style : Nat → ColumnStyle) (columns : List ColumnDef)
    (indexes : List IndexDef) :
    ∀ part ∈ columnElements style columns ++ indexes.map IndexDef.tokens,
      ∃ token rest, part = token :: rest ∧ isKeyword "LIKE" token = false := by
  intro part partMem
  rcases List.mem_append.mp partMem with isColumn | isIndex
  · rcases List.mem_mapIdx.mp isColumn with ⟨place, inside, rfl⟩
    exact ⟨_, _, rfl, rfl⟩
  · rcases List.mem_map.mp isIndex with ⟨⟨name, primary, unique, columns⟩, -, rfl⟩
    cases primary <;> cases unique <;> exact ⟨_, _, rfl, rfl⟩

theorem parses_createTable (style : Nat → ColumnStyle) (table : TableRef) (flag : Bool)
    {columns : List ColumnDef} {indexes : List IndexDef}
    (notEmpty : columns ≠ [] ∨ indexes ≠ []) (supported : ∀ index ∈ indexes, index.IsSupported) :
    Parses createTable ((if flag then words ["IF", "NOT", "EXISTS"] else []) ++ (table.tokens ++
        inParentheses (separated (columnElements style columns ++ indexes.map IndexDef.tokens))))
      (.createTable table flag columns indexes) [] := by
  have elements : List.Forall₂ (ReadsElement tableElement)
      (columnElements style columns ++ indexes.map IndexDef.tokens)
      (columns.map .column ++ indexes.map .index) :=
    List.rel_append (forall₂_columnElements readsElement_column style columns)
      (forall₂_map_map indexes fun index indexMem => readsElement_index (supported index indexMem))
  have startsWith := exists_element_eq style columns indexes
  generalize columnElements style columns ++ indexes.map IndexDef.tokens = parts
    at elements startsWith
  have valuesNotEmpty : columns.map TableElement.column ++ indexes.map TableElement.index ≠ [] := by
    simpa [or_iff_not_imp_left] using notEmpty
  have list : Parses (do
      let elements ← commaSeparated tableElement
      expectPunct ')'
      return Statement.createTable table flag (elementColumns elements) (elementIndexes elements))
      (separated parts ++ [.punct ')'])
      (.createTable table flag (elementColumns (columns.map .column ++ indexes.map .index))
        (elementIndexes (columns.map .column ++ indexes.map .index))) [] :=
    (parses_commaSeparated elements valuesNotEmpty (.close [])).bind
      ((Parses.expectPunct ')' []).bind (.pure _ _))
  rw [elementColumns_append, elementIndexes_append] at list
  have noGroupedLike : Parses eatGroupedLike (inParentheses (separated parts)) false
      (inParentheses (separated parts)) := by
    cases parts with
    | nil => rfl
    | cons part others =>
        rcases startsWith part (by simp) with ⟨token, rest, rfl, noLike⟩
        rcases exists_separated_eq token rest others with ⟨rest', separatedEq⟩
        simp [Parses, eatGroupedLike, inParentheses, separatedEq, noLike]
  have noLike : Parses (eatKeyword ["LIKE"]) (inParentheses (separated parts)) false
      (inParentheses (separated parts)) := rfl
  have tableRead : Parses tableRef (table.tokens ++ inParentheses (separated parts)) table
      (inParentheses (separated parts)) :=
    parses_tableRef table (by simp [inParentheses])
  exact (parses_ifNotExists flag table _).bind
    (tableRead.bind (noGroupedLike.bind (noLike.bind ((Parses.punct '(' _).bind list))))

theorem parses_tableRef_end (table : TableRef) : Parses tableRef table.tokens table [] := by
  have read := parses_tableRef table (by simp : ([] : List Token).head? ≠ some (.punct '.'))
  rwa [List.append_nil] at read

theorem parses_createTableLike (table : TableRef) (flag : Bool) (source : TableRef) :
    Parses createTable ((if flag then words ["IF", "NOT", "EXISTS"] else []) ++ (table.tokens ++
      (words ["LIKE"] ++ source.tokens))) (.createTableLike table flag source) [] := by
  have noGroupedLike : Parses eatGroupedLike (words ["LIKE"] ++ source.tokens) false
      (words ["LIKE"] ++ source.tokens) := by
    rcases exists_tableTokens_eq source with ⟨name, rest, sourceEq⟩
    rw [sourceEq]
    rfl
  have like : Parses (eatKeyword ["LIKE"]) (words ["LIKE"] ++ source.tokens) true source.tokens :=
    rfl
  exact (parses_ifNotExists flag table _).bind ((parses_tableRef table (by simp [words])).bind
    (noGroupedLike.bind (like.bind ((parses_tableRef_end source).bind (.pure _ _)))))

theorem parses_dropTable {tables : List TableRef} (notEmpty : tables ≠ []) (flag : Bool) :
    Parses (do let exempt ← ifExists; return .dropTable (← commaSeparated tableRef) exempt)
      ((if flag then words ["IF", "EXISTS"] else []) ++ separated (tables.map TableRef.tokens))
      (Statement.dropTable tables flag) [] := by
  have elements : List.Forall₂ (ReadsElement tableRef) (tables.map TableRef.tokens)
      (tables.map id) :=
    forall₂_map_map tables fun table _ => readsElement_tableRef table
  rw [List.map_id] at elements
  have list := parses_commaSeparated elements notEmpty .nothing
  rw [List.append_nil] at list
  have exempt : Parses ifExists ((if flag then words ["IF", "EXISTS"] else []) ++
      separated (tables.map TableRef.tokens)) flag (separated (tables.map TableRef.tokens)) := by
    rcases List.exists_cons_of_ne_nil notEmpty with ⟨first, others, rfl⟩
    rcases exists_tableTokens_eq first with ⟨name, rest, firstEq⟩
    rw [List.map_cons, firstEq]
    rcases exists_separated_eq (.quoted name) rest (others.map TableRef.tokens) with
      ⟨rest', separatedEq⟩
    rw [separatedEq]
    exact parses_ifExists flag name rest'
  exact exempt.bind (list.bind (.pure _ _))

theorem parses_renameTable {pairs : List (TableRef × TableRef)} (notEmpty : pairs ≠ []) :
    Parses (do let found ← commaSeparated renamePair; expectEnd; return .renameTable found)
      (separated (pairs.map fun pair => pair.1.tokens ++ (words ["TO"] ++ pair.2.tokens)))
      (Statement.renameTable pairs) [] := by
  have elements : List.Forall₂ (ReadsElement renamePair)
      (pairs.map fun pair => pair.1.tokens ++ (words ["TO"] ++ pair.2.tokens)) (pairs.map id) :=
    forall₂_map_map pairs fun pair _ => readsElement_renamePair pair
  rw [List.map_id] at elements
  have list := parses_commaSeparated elements notEmpty .nothing
  rw [List.append_nil] at list
  exact list.bind (Parses.expectEnd.bind (.pure _ _))

/-- A table and the columns of an index that is created on it. -/
theorem parses_indexedTable (table : TableRef) {index : IndexDef} (notEmpty : index.columns ≠ [])
    (create : TableRef → List String → Statement) :
    Parses (do let found ← tableRef; return create found (← keyColumns))
      (table.tokens ++ index.columnTokens) (create table index.columns) [] := by
  have columns := parses_keyColumns notEmpty []
  rw [List.append_nil] at columns
  have noDot : index.columnTokens.head? ≠ some (.punct '.') := by
    simp [IndexDef.columnTokens, inParentheses]
  exact (parses_tableRef table noDot).bind (columns.bind (.pure _ _))

/-- The parser reads every statement from its canonical tokens. -/
theorem parses_statement (style : Nat → Nat → ColumnStyle) {statement : Statement}
    (supported : statement.IsSupported) :
    Parses Parser.statement (statement.tokens style) statement [] := by
  -- What the keywords at the front choose is found by evaluation; the lemmas are about the rest.
  cases statement with
  | createDatabase name ifNotExists => cases ifNotExists <;> rfl
  | alterDatabase name => rfl
  | dropDatabase name ifExists => cases ifExists <;> rfl
  | createTable table ifNotExists columns indexes =>
      exact parses_createTable (style 0) table ifNotExists supported.1 supported.2
  | createTableLike table ifNotExists source =>
      exact parses_createTableLike table ifNotExists source
  | dropTable tables ifExists => exact parses_dropTable supported ifExists
  | truncateTable table =>
      have read : Parses (do let found ← tableRef; expectEnd; return .truncateTable found)
          table.tokens (Statement.truncateTable table) [] :=
        (parses_tableRef_end table).bind (Parses.expectEnd.bind (.pure _ _))
      exact read
  | renameTable pairs => exact parses_renameTable supported
  | createIndex table index =>
      rcases supported with ⟨isNamed, notPrimary, notEmpty⟩
      have read := parses_indexedTable table notEmpty fun found columns =>
        .createIndex found ⟨index.name, false, index.unique, columns⟩
      rcases index with ⟨name, primary, unique, columns⟩
      rcases Option.isSome_iff_exists.mp isNamed with ⟨text, rfl⟩
      cases notPrimary
      cases unique <;> exact read
  | dropIndex table name =>
      have read : Parses (do return .dropIndex (← tableRef) name) table.tokens
          (Statement.dropIndex table name) [] :=
        (parses_tableRef_end table).bind (.pure _ _)
      exact read
  | alterTable table specs => exact parses_alterTable style table supported

end Parser

/-! ### Texts -/

theorem splitStatements_append {first : List Token} (inner : AreInner first) (rest : List Token) :
    splitStatements (first ++ .punct ';' :: rest) = first :: splitStatements rest := by
  induction first with
  | nil => simp [splitStatements]
  | cons token first ih =>
      rcases List.forall_mem_cons.mp inner with ⟨isInner, later⟩
      rw [List.cons_append, splitStatements, if_neg isInner.2, ih later]

theorem splitStatements_eq_singleton {tokens : List Token} (inner : AreInner tokens) :
    splitStatements tokens = [tokens] := by
  induction tokens with
  | nil => rfl
  | cons token tokens ih =>
      rcases List.forall_mem_cons.mp inner with ⟨isInner, later⟩
      rw [splitStatements, if_neg isInner.2, ih later]

namespace Ddl

/-- A statement starts with a keyword other than `USE`. -/
theorem eatKeyword_use (style : Nat → Nat → ColumnStyle) (statement : Statement) :
    Parser.Parses (Parser.eatKeyword ["USE"]) (statement.tokens style) false
      (statement.tokens style) := by
  cases statement <;> rfl

theorem ofParts_tokens (style : Nat → Nat → ColumnStyle) {statement : Statement}
    (supported : statement.IsSupported) (schema : Option String) :
    ofParts schema none [statement.tokens style] = .ok ⟨schema, statement⟩ := by
  have noUse := eatKeyword_use style statement
  have read := Parser.parses_statement style supported
  unfold Parser.Parses at noUse read
  simp [ofParts, noUse, read, bind, Except.bind]

theorem ofTokens_tokens (style : Nat → Nat → ColumnStyle) (ddl : Ddl)
    (supported : ddl.statement.IsSupported) : ofTokens (ddl.tokens style) = .ok ddl := by
  rcases ddl with ⟨schema, statement⟩
  have inner := statement.areInner_tokens style
  have notEmpty : (statement.tokens style).isEmpty = false := by
    cases statement <;> rfl
  have read := ofParts_tokens style supported
  cases schema with
  | none =>
      simp [ofTokens, tokens, splitStatements_eq_singleton inner, notEmpty, read]
  | some schema =>
      have useInner : AreInner (words ["USE"] ++ [.quoted schema]) :=
        .append (.words (by decide +kernel)) (.quoted _ .nil)
      have parts : splitStatements (tokens style ⟨some schema, statement⟩) =
          [words ["USE"] ++ [.quoted schema], statement.tokens style] := by
        rw [← splitStatements_eq_singleton inner, ← splitStatements_append useInner]
        rfl
      have nonempty : [words ["USE"] ++ [.quoted schema], statement.tokens style].filter
          (fun part => !part.isEmpty) =
          [words ["USE"] ++ [.quoted schema], statement.tokens style] := by
        simp [words, notEmpty]
      rw [ofTokens, parts, nonempty]
      exact read (some schema)

/-- The text of any statement is read as that statement, with the database that is selected. -/
theorem parse_render (style : Nat → Nat → ColumnStyle) (ddl : Ddl)
    (supported : ddl.statement.IsSupported) : parse (ddl.render style) = .ok ddl := by
  simp [parse, read, scan_render, ofTokens_tokens style ddl supported, bind, Except.bind,
    Except.mapError]

/-- Marks, keywords and quotes in names, literals and groups, after `USE`. -/
theorem parse_render_of_marks_in_names :
    let group : Group :=
      ⟨[.word "KEY", .punct ',', .punct '(', .quoted ")", .punct ')', .literal ";"],
        .token (by decide) (by decide) (.token (by decide) (by decide)
          (@AreBalanced.group [.quoted ")"] [.literal ";"]
            (.token (by decide) (by decide) .nil) (.token (by decide) (by decide) .nil))),
        by decide +kernel⟩
    let style : ColumnStyle := ⟨"DECIMAL", by decide +kernel, some group, some "it's; \\", group⟩
    let ddl : Ddl :=
      ⟨some "a`;b", .alterTable ⟨some "KEY", "LIKE ("⟩
        [.addColumns [⟨"x, y", true, true, true⟩] (.after ")"),
          .addIndex ⟨some "UNIQUE", true, true, ["FIRST", ","]⟩, .other]⟩
    ddl.statement.IsSupported ∧
      ddl.render (fun _ _ => style) =
        "USE `a``;b`; ALTER TABLE `KEY`.`LIKE (` ADD COLUMN `x, y` DECIMAL (KEY, (`)`) ';') " ++
          "'it''s; \\\\' GENERATED ALWAYS AS (KEY, (`)`) ';') PRIMARY KEY UNIQUE AFTER `)`, " ++
          "ADD PRIMARY KEY `UNIQUE` (`FIRST`, `,`), FORCE" ∧
      parse (ddl.render fun _ _ => style) = .ok ddl := by
  intro group style ddl
  have supported : ddl.statement.IsSupported := by
    decide
  exact ⟨supported, by decide +kernel, parse_render (fun _ _ => style) ddl supported⟩

end Ddl

end RowLog.Schema
