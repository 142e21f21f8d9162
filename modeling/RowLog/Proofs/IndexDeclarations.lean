import Mathlib.Data.List.ReduceOption
import RowLog.Proofs.DefinitionChanges
import RowLog.Proofs.ListElements

/-!
# The indexes that a statement declares

The indexes that the tokens of a statement declare are told without reading the statement: the
elements of a list stand after its commas, those inside parentheses apart, an element declares an
index if it starts with the keywords of one, and the parts of the index are the elements in the
first parentheses of the element, each told by its first token. A statement that is read has these
indexes, each with the columns among its parts. Main statement: `Parser.declares_of_statement`.
-/

namespace RowLog.Schema

/-- An index as it is declared. A part is a column or, as `none`, an expression. -/
structure IndexDeclaration where
  primary : Bool
  unique : Bool
  parts : List (Option String)
  deriving DecidableEq

/-- What a part of an index is by its first token: the name of a column, behind which the length of
a prefix may stand, or, as `none`, the parenthesis of an expression. -/
def partColumn? : List Token → Option String
  | .word column :: _ => some column
  | .quoted column :: _ => some column
  | _ => none

/-- The parts of an index whose parentheses are the first ones. -/
def declaredParts (tokens : List Token) : List (Option String) :=
  (elementStarts (fromGroup tokens).tail).map partColumn?

/-- The index that an element declares, which may be named as a constraint. -/
def declaration? (element : List Token) : Option IndexDeclaration :=
  match Parser.constraintName element with
  | .ok ((), token :: rest) =>
      if Parser.isKeyword "PRIMARY" token then some ⟨true, true, declaredParts rest⟩
      else if Parser.isKeyword "UNIQUE" token then some ⟨false, true, declaredParts rest⟩
      else if Parser.isKeyword "KEY" token || Parser.isKeyword "INDEX" token then
        some ⟨false, false, declaredParts rest⟩
      else none
  | _ => none

/-- The index that a change of a table declares. -/
def addedDeclaration? : List Token → Option IndexDeclaration
  | token :: rest => if Parser.isKeyword "ADD" token then declaration? rest else none
  | [] => none

/-- The indexes that the tokens of a statement declare: those among the elements of a new table,
those among the changes of a table, or a single one. -/
def declarations : List Token → List IndexDeclaration
  | first :: second :: rest =>
      if Parser.isKeyword "CREATE" first then
        if Parser.isKeyword "TABLE" second then
          (elementStarts (fromGroup rest).tail).filterMap declaration?
        else [⟨false, Parser.isKeyword "UNIQUE" second, declaredParts (second :: rest)⟩]
      else if Parser.isKeyword "ALTER" first && Parser.isKeyword "TABLE" second then
        match Parser.tableRef rest with
        | .ok (_, changes) => (elementStarts changes).filterMap addedDeclaration?
        | .error _ => []
      else []
  | _ => []

/-- The index that a change adds. -/
def AlterSpec.index? : AlterSpec → Option IndexDef
  | .addIndex index => some index
  | _ => none

/-- The indexes that a statement lists. -/
def Statement.indexes (statement : Statement) : List IndexDef :=
  statement.changes.filterMap AlterSpec.index?

theorem Statement.indexes_createTable (table : TableRef) (exempt : Bool) (columns : List ColumnDef)
    (indexes : List IndexDef) : (createTable table exempt columns indexes).indexes = indexes := by
  have each : (indexes.map AlterSpec.addIndex).filterMap AlterSpec.index? = indexes := by
    rw [List.filterMap_map]
    exact List.filterMap_some
  rw [Statement.indexes, Statement.changes, List.filterMap_cons_none rfl, each]

/-- Whether an index is the one that is declared, without the expressions among its parts. -/
structure IndexDeclaration.IsReadAs (declaration : IndexDeclaration) (index : IndexDef) : Prop where
  primary_eq : index.primary = declaration.primary
  unique_eq : index.unique = declaration.unique
  columns_eq : index.columns = declaration.parts.reduceOption

namespace Parser

variable {α β γ : Type} {tokens rest : List Token}

/-! ### Reading an index -/

theorem partColumn?_of_name {column : String} (read : name tokens = .ok (column, rest)) :
    partColumn? tokens = some column := by
  unfold name at read
  split at read
  · cases read
    rfl
  · cases read
    rfl
  · contradiction
  · contradiction

/-- A part that is read is a column, whole or with the length of a prefix, if it starts with a name,
and else an expression. -/
theorem keyPart_eq_ok {part : Option String} (read : keyPart tokens = .ok (part, rest)) :
    part = partColumn? tokens := by
  have directed {column : Option String} {between : List Token}
      (read : (do let _ ← eatKeyword ["ASC", "DESC"]; return column : Parser (Option String))
        between = .ok (part, rest)) : part = column := by
    rcases bind_eq_ok read with ⟨_, _, -, last⟩
    cases last
    rfl
  rcases bind_eq_ok read with ⟨_, _, openEq, kinds⟩
  cases openEq
  dsimp only at kinds
  split at kinds
  · next isOpen =>
      rcases bind_eq_ok kinds with ⟨_, _, -, named⟩
      rcases bind_eq_ok named with ⟨_, _, noColumn, direction⟩
      cases noColumn
      rw [beq_iff_eq] at isOpen
      rcases List.head?_eq_some_iff.mp isOpen with ⟨inside, rfl⟩
      exact directed direction
  · rcases bind_eq_ok kinds with ⟨column, _, nameEq, lengths⟩
    rw [partColumn?_of_name nameEq]
    rcases bind_eq_ok lengths with ⟨hasLength, _, -, lengths⟩
    split at lengths
    · rcases bind_eq_ok lengths with ⟨_, _, -, named⟩
      rcases bind_eq_ok named with ⟨_, _, isColumn, direction⟩
      cases isColumn
      exact directed direction
    · rcases bind_eq_ok lengths with ⟨_, _, isColumn, direction⟩
      cases isColumn
      exact directed direction

/-- The parts in parentheses stand between the commas, those inside further parentheses apart. -/
theorem keyParts_eq_ok {parts : List (Option String)}
    (read : keyParts tokens = .ok (parts, rest)) :
    parts = (elementStarts tokens.tail).map partColumn? := by
  rcases bind_eq_ok read with ⟨_, inside, opened, listed⟩
  rcases bind_eq_ok listed with ⟨_, closing, partsEq, closed⟩
  rcases bind_eq_ok closed with ⟨_, _, closedEq, last⟩
  cases last
  rw [eq_of_expectPunct closedEq] at partsEq
  have each := (forall₂_commaList (Carries.keyPart 0) partsEq).imp
    fun start part ⟨left, partEq⟩ => keyPart_eq_ok partEq
  rw [eq_of_expectPunct opened, List.tail_cons, ← List.forall₂_eq_eq_eq, List.forall₂_map_right_iff]
  exact each.flip

/-- The columns of an index are those among the parts in its parentheses. -/
theorem keyColumns_eq_ok {columns : List String}
    (read : keyColumns tokens = .ok (columns, rest)) :
    columns = (declaredParts tokens).reduceOption := by
  rcases bind_eq_ok read with ⟨parts, middle, partsEq, same⟩
  cases same
  rcases bind_eq_ok partsEq with ⟨_, inside, opened, -⟩
  have opensFirst := eq_of_expectPunct opened
  have group : fromGroup tokens = tokens := by
    rw [opensFirst, fromGroup, List.dropWhile_cons_of_neg (by simp)]
  rw [declaredParts, group, keyParts_eq_ok partsEq]

theorem declaredParts_congr {tokens other : List Token}
    (same : fromGroup other = fromGroup tokens) : declaredParts other = declaredParts tokens := by
  rw [declaredParts, same, declaredParts]

theorem isReadAs_indexColumns {indexName : Option String} {primary unique : Bool}
    {index : IndexDef} (read : indexColumns indexName primary unique tokens = .ok (index, rest)) :
    IndexDeclaration.IsReadAs ⟨primary, unique, declaredParts tokens⟩ index := by
  have structural := isStructural_fromGroup
  have listed {between : List Token} (same : fromGroup between = fromGroup tokens)
      (read : (do
        let columns ← keyColumns
        skipElement
        return (⟨indexName, primary, unique, columns⟩ : IndexDef)) between = .ok (index, rest)) :
      IndexDeclaration.IsReadAs ⟨primary, unique, declaredParts tokens⟩ index := by
    rcases bind_eq_ok read with ⟨columns, _, columnsEq, read⟩
    rcases bind_eq_ok read with ⟨_, _, -, read⟩
    cases read
    rw [← declaredParts_congr same]
    exact ⟨rfl, rfl, keyColumns_eq_ok columnsEq⟩
  rcases bind_eq_ok read with ⟨isUsing, middle, usingEq, read⟩
  have middleSame := Carries.eatKeyword structural _ _ _ _ usingEq
  split at read
  · rcases bind_eq_ok read with ⟨_, afterMethod, methodEq, read⟩
    exact listed ((Carries.name structural _ _ _ methodEq).trans middleSame) read
  · exact listed middleSame read

/-- The name of the index stands before its parentheses. -/
theorem isReadAs_indexBody {primary unique : Bool} {index : IndexDef}
    (read : indexBody primary unique tokens = .ok (index, rest)) :
    IndexDeclaration.IsReadAs ⟨primary, unique, declaredParts tokens⟩ index := by
  have structural := isStructural_fromGroup
  rcases bind_eq_ok read with ⟨_, first, firstEq, read⟩
  rcases bind_eq_ok read with ⟨_, second, secondEq, read⟩
  have firstSame : fromGroup first = fromGroup tokens := Carries.atPunct _ _ _ _ firstEq
  have secondSame := (Carries.atKeyword _ _ _ _ secondEq).trans firstSame
  dsimp only at read
  split at read
  · rw [← declaredParts_congr secondSame]
    exact isReadAs_indexColumns read
  · rcases bind_eq_ok read with ⟨_, afterName, nameEq, read⟩
    rw [← declaredParts_congr
      ((Carries.map (Carries.name structural) some _ _ _ nameEq).trans secondSame)]
    exact isReadAs_indexColumns read

/-- After what may stand before it, an element is read as an index exactly if it declares one. -/
theorem rel_indexElement? {element : List Token} {found : Option IndexDef}
    (named : constraintName element = .ok ((), tokens))
    (read : indexElement? tokens = .ok (found, rest)) :
    Option.Rel IndexDeclaration.IsReadAs (declaration? element) found := by
  have structural := isStructural_fromGroup
  unfold declaration?
  rw [named]
  rcases bind_eq_ok read with ⟨isPrimary, afterPrimary, primaryEq, noPrimary⟩
  rcases eatKeyword_eq_ok primaryEq with ⟨rfl, token, tokensEq, primary⟩ | ⟨rfl, same, notPrimary⟩
  · rcases bind_eq_ok noPrimary with ⟨_, afterKey, keyEq, indexed⟩
    rcases bind_eq_ok indexed with ⟨index, _, body, last⟩
    cases last
    simp only [List.any_cons, List.any_nil, Bool.or_false] at primary
    simp only [tokensEq, primary, if_true]
    rw [← declaredParts_congr (Carries.expectKeyword structural _ _ _ _ keyEq)]
    exact .some (isReadAs_indexBody body)
  rw [same] at noPrimary
  rcases bind_eq_ok noPrimary with ⟨isUnique, afterUnique, uniqueEq, noUnique⟩
  rcases eatKeyword_eq_ok uniqueEq with ⟨rfl, token, tokensEq, unique⟩ | ⟨rfl, same, notUnique⟩
  · rcases bind_eq_ok noUnique with ⟨_, afterKey, keyEq, indexed⟩
    rcases bind_eq_ok indexed with ⟨index, _, body, last⟩
    cases last
    simp only [tokensEq, List.head?_cons, Option.mem_some_iff, forall_eq', List.any_cons,
      List.any_nil, Bool.or_false] at notPrimary unique
    simp only [tokensEq, notPrimary, unique, Bool.false_eq_true, if_false, if_true]
    rw [← declaredParts_congr (Carries.eatKeyword structural _ _ _ _ keyEq)]
    exact .some (isReadAs_indexBody body)
  rw [same] at noUnique
  rcases bind_eq_ok noUnique with ⟨isKey, afterKey, keyEq, noKey⟩
  rcases eatKeyword_eq_ok keyEq with ⟨rfl, token, tokensEq, key⟩ | ⟨rfl, same, notKey⟩
  · rcases bind_eq_ok noKey with ⟨index, _, body, last⟩
    cases last
    simp only [tokensEq, List.head?_cons, Option.mem_some_iff, forall_eq', List.any_cons,
      List.any_nil, Bool.or_false] at notPrimary notUnique key
    simp only [tokensEq, notPrimary, notUnique, key, Bool.false_eq_true, if_false, if_true]
    exact .some (isReadAs_indexBody body)
  · cases noKey
    cases tokens with
    | nil => exact .none
    | cons token after =>
        simp only [List.head?_cons, Option.mem_some_iff, forall_eq', List.any_cons, List.any_nil,
          Bool.or_false] at notPrimary notUnique notKey
        simp only [notPrimary, notUnique, notKey, Bool.false_eq_true, if_false]
        exact .none

/-- The index of an element of a new table. -/
def TableElement.index? : TableElement → Option IndexDef
  | .index listed => some listed
  | _ => none

theorem rel_tableElement {element : TableElement}
    (read : tableElement tokens = .ok (element, rest)) :
    Option.Rel IndexDeclaration.IsReadAs (declaration? tokens) element.index? := by
  rcases bind_eq_ok read with ⟨_, named, namedEq, read⟩
  rcases bind_eq_ok read with ⟨found, after, foundEq, read⟩
  have rel := rel_indexElement? namedEq foundEq
  cases found with
  | some index =>
      cases read
      exact rel
  | none =>
      rcases bind_eq_ok read with ⟨isOther, _, -, read⟩
      split at read
      · rcases bind_eq_ok read with ⟨_, _, -, read⟩
        cases read
        exact rel
      · rcases bind_eq_ok read with ⟨_, _, -, read⟩
        cases read
        exact rel

/-- Whether a parser only reads values with a property. -/
def Yields (holds : α → Prop) (parser : Parser α) : Prop :=
  ∀ tokens value rest, parser tokens = .ok (value, rest) → holds value

namespace Yields

variable {holds : α → Prop}

theorem pure {value : α} (valueHolds : holds value) :
    Yields holds (Pure.pure value : Parser α) := by
  intro tokens found rest read
  cases read
  exact valueHolds

theorem bind {parser : Parser β} {next : β → Parser α}
    (later : ∀ value, Yields holds (next value)) : Yields holds (parser >>= next) := by
  intro tokens final rest read
  rcases bind_eq_ok read with ⟨value, middle, -, laterEq⟩
  exact later value middle final rest laterEq

theorem ite {condition : Prop} [Decidable condition] {yes no : Parser α}
    (yesYields : Yields holds yes) (noYields : Yields holds no) :
    Yields holds (if condition then yes else no) := by
  split
  · exact yesYields
  · exact noYields

theorem dropSpec : Yields (fun spec => spec.index? = none) dropSpec :=
  bind fun _ => ite (bind fun _ => pure rfl) (bind fun _ => ite (bind fun _ => pure rfl)
    (bind fun _ => ite (pure rfl) (bind fun _ => bind fun _ => pure rfl)))

theorem renameSpec : Yields (fun spec => spec.index? = none) renameSpec :=
  bind fun _ => ite (bind fun _ => bind fun _ => bind fun _ => pure rfl)
    (bind fun _ => ite (bind fun _ => bind fun _ => bind fun _ => pure rfl)
      (bind fun _ => bind fun _ => pure rfl))

/-- Only a change that starts with `ADD` adds an index. -/
theorem changeSpec : Yields (fun spec => spec.index? = none) (do
    if ← eatKeyword ["DROP"] then Parser.dropSpec
    else if ← eatKeyword ["MODIFY"] then
      let _ ← eatKeyword ["COLUMN"]
      let column ← columnDef
      return .modifyColumn column (← position)
    else if ← eatKeyword ["CHANGE"] then
      let _ ← eatKeyword ["COLUMN"]
      let old ← name
      let column ← columnDef
      return .changeColumn old column (← position)
    else if ← eatKeyword ["RENAME"] then Parser.renameSpec
    else return .other) :=
  bind fun _ => ite dropSpec (bind fun _ => ite (bind fun _ => bind fun _ => bind fun _ => pure rfl)
    (bind fun _ => ite (bind fun _ => bind fun _ => bind fun _ => bind fun _ => pure rfl)
      (bind fun _ => ite renameSpec (pure rfl))))

end Yields

theorem rel_addSpec {spec : AlterSpec} (read : addSpec tokens = .ok (spec, rest)) :
    Option.Rel IndexDeclaration.IsReadAs (declaration? tokens) spec.index? := by
  rcases bind_eq_ok read with ⟨_, named, namedEq, read⟩
  rcases bind_eq_ok read with ⟨found, after, foundEq, read⟩
  have rel := rel_indexElement? namedEq foundEq
  cases found with
  | some index =>
      cases read
      exact rel
  | none =>
      have noIndex : Yields (fun spec : AlterSpec => spec.index? = none) (do
          if ← atKeyword ["FULLTEXT", "SPATIAL", "FOREIGN", "CHECK", "PARTITION"] then return .other
          else
            let _ ← eatKeyword ["COLUMN"]
            if ← eatPunct '(' then
              let columns ← commaSeparated columnDef
              expectPunct ')'
              return .addColumns columns .last
            else
              let column ← columnDef
              return .addColumns [column] (← position)) :=
        .bind fun _ => .ite (.pure rfl) (.bind fun _ => .bind fun _ => .ite
          (.bind fun _ => .bind fun _ => .pure rfl) (.bind fun _ => .bind fun _ => .pure rfl))
      rw [noIndex after spec rest read]
      exact rel

theorem rel_alterSpec {spec : AlterSpec} (read : alterSpec tokens = .ok (spec, rest)) :
    Option.Rel IndexDeclaration.IsReadAs (addedDeclaration? tokens) spec.index? := by
  rcases bind_eq_ok read with ⟨isAdd, afterAdd, addEq, later⟩
  rcases eatKeyword_eq_ok addEq with ⟨rfl, token, tokensEq, add⟩ | ⟨rfl, same, notAdd⟩
  · simp only [List.any_cons, List.any_nil, Bool.or_false] at add
    simp only [tokensEq, addedDeclaration?, add, if_true]
    exact rel_addSpec later
  · rw [Yields.changeSpec _ spec rest later]
    cases tokens with
    | nil => exact .none
    | cons token after =>
        simp only [List.head?_cons, Option.mem_some_iff, forall_eq', List.any_cons, List.any_nil,
          Bool.or_false] at notAdd
        simp only [addedDeclaration?, notAdd, Bool.false_eq_true, if_false]
        exact .none

/-! ### Reading the changes of a table -/

theorem forall₂_filterMap_cons {relation : α → β → Prop} {δ : Type} {first : γ → Option α}
    {second : δ → Option β} {left : γ} {right : δ} {lefts : List γ} {rights : List δ}
    (rel : Option.Rel relation (first left) (second right))
    (later : List.Forall₂ relation (lefts.filterMap first) (rights.filterMap second)) :
    List.Forall₂ relation ((left :: lefts).filterMap first)
      ((right :: rights).filterMap second) := by
  rw [List.filterMap_cons, List.filterMap_cons]
  generalize first left = found at rel
  generalize second right = listed at rel
  cases rel with
  | some related => exact .cons related later
  | none => exact later

theorem forall₂_alterSpecList {fuel : Nat} {specs : List AlterSpec}
    (read : alterSpecList fuel tokens = .ok (specs, rest)) :
    List.Forall₂ IndexDeclaration.IsReadAs ((elementStarts tokens).filterMap addedDeclaration?)
      (specs.filterMap AlterSpec.index?) := by
  induction fuel generalizing tokens specs with
  | zero =>
      rcases bind_eq_ok read with ⟨_, _, ended, same⟩
      cases same
      rw [eq_nil_of_expectEnd ended]
      exact .nil
  | succ fuel ih =>
      unfold alterSpecList at read
      split at read
      · next isEmpty =>
          cases read
          rw [List.isEmpty_iff.mp isEmpty]
          exact .nil
      · rcases bind_eq_ok read with ⟨spec, afterSpec, specEq, skip⟩
        rcases bind_eq_ok skip with ⟨_, left, skipEq, later⟩
        rcases bind_eq_ok later with ⟨isComma, after, commaEq, others⟩
        have leftEq := (Carries.skipElement 0 _ _ _ skipEq).trans (Carries.alterSpec 0 _ _ _ specEq)
        rcases eatPunct_eq_ok commaEq with ⟨rfl, comma⟩ | ⟨rfl, same⟩
        · rcases bind_eq_ok others with ⟨_, _, othersEq, same⟩
          cases same
          rw [elementStarts, ← leftEq, comma, laterElements_comma]
          exact forall₂_filterMap_cons (rel_alterSpec specEq) (ih othersEq)
        · rcases bind_eq_ok others with ⟨_, _, ended, last⟩
          cases last
          rw [same] at ended
          rw [elementStarts, ← leftEq, eq_nil_of_expectEnd ended]
          exact forall₂_filterMap_cons (rel_alterSpec specEq) .nil

/-! ### Reading a statement -/

theorem elementIndexes_eq (elements : List TableElement) :
    elementIndexes elements = elements.filterMap TableElement.index? := by
  unfold elementIndexes
  congr 1

theorem eq_of_eatGroupedLike (read : eatGroupedLike tokens = .ok (false, rest)) :
    rest = tokens := by
  unfold eatGroupedLike at read
  split at read
  · split at read
    · cases read
    · cases read
      rfl
  · cases read
    rfl

theorem forall₂_createTable {table : TableRef} {exempt : Bool} {columns : List ColumnDef}
    {indexes : List IndexDef}
    (read : createTable tokens = .ok (.createTable table exempt columns indexes, rest)) :
    List.Forall₂ IndexDeclaration.IsReadAs
      ((elementStarts (fromGroup tokens).tail).filterMap declaration?) indexes := by
  have structural := isStructural_fromGroup
  rcases bind_eq_ok read with ⟨_, afterExempt, exemptEq, named⟩
  rcases bind_eq_ok named with ⟨ref, afterName, nameEq, copied⟩
  rcases bind_eq_ok copied with ⟨isGrouped, afterGrouped, groupedEq, plain⟩
  cases isGrouped with
  | true =>
      rcases bind_eq_ok plain with ⟨_, _, -, closed⟩
      rcases bind_eq_ok closed with ⟨_, _, -, last⟩
      cases last
  | false =>
      rcases bind_eq_ok plain with ⟨isLike, afterLike, likeEq, listed⟩
      rcases eatKeyword_eq_ok likeEq with ⟨rfl, -⟩ | ⟨rfl, likeSame, -⟩
      · rcases bind_eq_ok listed with ⟨_, _, -, last⟩
        cases last
      · rcases bind_eq_ok listed with ⟨isOpen, inside, openEq, items⟩
        rcases eatPunct_eq_ok openEq with ⟨rfl, opened⟩ | ⟨rfl, -⟩
        · rcases bind_eq_ok items with ⟨elements, closing, elementsEq, closed⟩
          rcases bind_eq_ok closed with ⟨_, after, closedEq, last⟩
          cases last
          rw [eq_of_expectPunct closedEq] at elementsEq
          -- The first parentheses are those of the elements.
          have group : fromGroup tokens = .punct '(' :: inside := by
            rw [← Carries.eatKeywords structural _ _ _ _ exemptEq,
              ← Carries.tableRef structural _ _ _ nameEq, ← eq_of_eatGroupedLike groupedEq,
              ← likeSame, opened, fromGroup, List.dropWhile_cons_of_neg (by simp)]
          have each := forall₂_commaList (Carries.tableElement 0) elementsEq
          rw [group, elementIndexes_eq]
          refine List.rel_filterMap ?_ each
          intro start element readAs
          rcases readAs with ⟨_, elementEq⟩
          exact rel_tableElement elementEq
        · rcases bind_eq_ok items with ⟨_, _, thrown, -⟩
          cases thrown

theorem forall₂_alterTable {table : TableRef} {specs : List AlterSpec}
    (read : alterTable tokens = .ok (.alterTable table specs, rest)) :
    ∃ changes, tableRef tokens = .ok (table, changes) ∧
      List.Forall₂ IndexDeclaration.IsReadAs ((elementStarts changes).filterMap addedDeclaration?)
        (specs.filterMap AlterSpec.index?) := by
  rcases bind_eq_ok read with ⟨ref, changes, refEq, listed⟩
  rcases bind_eq_ok listed with ⟨found, _, specsEq, last⟩
  cases last
  exact ⟨changes, refEq, forall₂_alterSpecList specsEq⟩

/-- A statement that creates an index, after the name and the method of the index. -/
def indexTable (indexName : String) (unique : Bool) : Parser Statement := do
  expectKeyword "ON"
  let table ← tableRef
  let columns ← keyColumns
  return .createIndex table ⟨some indexName, false, unique, columns⟩

/-- A statement that creates an index, from the keyword on. -/
def indexStatement (unique : Bool) : Parser Statement := do
  if ← eatKeyword ["INDEX", "KEY"] then
    let indexName ← name
    if ← eatKeyword ["USING"] then let _ ← name
    indexTable indexName unique
  else fail .unsupportedCreate

theorem isReadAs_indexTable {indexName : String} {unique : Bool} {table : TableRef}
    {index : IndexDef}
    (read : indexTable indexName unique tokens = .ok (.createIndex table index, rest)) :
    IndexDeclaration.IsReadAs ⟨false, unique, declaredParts tokens⟩ index := by
  have structural := isStructural_fromGroup
  rcases bind_eq_ok read with ⟨_, afterOn, onEq, named⟩
  rcases bind_eq_ok named with ⟨_, afterTable, tableEq, listed⟩
  rcases bind_eq_ok listed with ⟨columns, _, columnsEq, last⟩
  cases last
  rw [← declaredParts_congr ((Carries.tableRef structural _ _ _ tableEq).trans
    (Carries.expectKeyword structural _ _ _ _ onEq))]
  exact ⟨rfl, rfl, keyColumns_eq_ok columnsEq⟩

theorem isReadAs_indexStatement {unique : Bool} {table : TableRef} {index : IndexDef}
    (read : indexStatement unique tokens = .ok (.createIndex table index, rest)) :
    IndexDeclaration.IsReadAs ⟨false, unique, declaredParts tokens⟩ index := by
  have structural := isStructural_fromGroup
  rcases bind_eq_ok read with ⟨isIndex, afterIndex, indexEq, named⟩
  split at named
  · rcases bind_eq_ok named with ⟨indexName, afterName, nameEq, method⟩
    rcases bind_eq_ok method with ⟨isUsing, afterUsing, usingEq, later⟩
    have usingSame := (Carries.eatKeyword structural _ _ _ _ usingEq).trans
      ((Carries.name structural _ _ _ nameEq).trans
        (Carries.eatKeyword structural _ _ _ _ indexEq))
    split at later
    · rcases bind_eq_ok later with ⟨_, afterMethod, methodEq, later⟩
      rw [← declaredParts_congr ((Carries.name structural _ _ _ methodEq).trans usingSame)]
      exact isReadAs_indexTable later
    · rw [← declaredParts_congr usingSame]
      exact isReadAs_indexTable later
  · cases named

/-- What stands after `CREATE`, where no table is created. -/
theorem isReadAs_createIndex {table : TableRef} {index : IndexDef} {second : Token}
    {after : List Token} (notTable : isKeyword "TABLE" second = false)
    (read : create (second :: after) = .ok (.createIndex table index, rest)) :
    IndexDeclaration.IsReadAs
      ⟨false, isKeyword "UNIQUE" second, declaredParts (second :: after)⟩ index := by
  have structural := isStructural_fromGroup
  rcases bind_eq_ok read with ⟨isDatabase, first, databaseEq, noDatabase⟩
  rcases eatKeyword_eq_ok databaseEq with ⟨rfl, -⟩ | ⟨rfl, same, -⟩
  · rcases bind_eq_ok noDatabase with ⟨_, _, -, named⟩
    rcases bind_eq_ok named with ⟨_, _, -, last⟩
    cases last
  rw [same] at noDatabase
  rcases bind_eq_ok noDatabase with ⟨isTable, left, tableEq, noTable⟩
  rcases eatKeyword_eq_ok tableEq with ⟨rfl, token, tokensEq, table⟩ | ⟨rfl, same, -⟩
  · cases tokensEq
    simp [notTable] at table
  rw [same] at noTable
  rcases bind_eq_ok noTable with ⟨isUnique, afterUnique, uniqueEq, kinds⟩
  have uniqueSame := Carries.eatKeyword structural _ _ _ _ uniqueEq
  have uniqueIff : isKeyword "UNIQUE" second = isUnique := by
    rcases eatKeyword_eq_ok uniqueEq with ⟨rfl, token, tokensEq, unique⟩ | ⟨rfl, -, notUnique⟩
    · cases tokensEq
      simpa using unique
    · simpa using notUnique
  rw [uniqueIff]
  dsimp only at kinds
  split at kinds
  · rcases bind_eq_ok kinds with ⟨_, afterKind, kindEq, later⟩
    rw [← declaredParts_congr ((Carries.eatKeyword structural _ _ _ _ kindEq).trans uniqueSame)]
    exact isReadAs_indexStatement later
  · rw [← declaredParts_congr uniqueSame]
    exact isReadAs_indexStatement kinds

/-- The statements that declare indexes. -/
def MayDeclare : Statement → Prop
  | .createTable _ _ _ _ | .createIndex _ _ | .alterTable _ _ => True
  | _ => False

namespace Yields

theorem fail {holds : α → Prop} (error : Option Token → SyntaxError) :
    Yields holds (fail error : Parser α) := by
  intro tokens value rest read
  cases read

theorem createTable : Yields (fun statement => MayDeclare statement →
    ∃ table exempt columns indexes, statement = .createTable table exempt columns indexes)
      createTable := by
  have like {table source : TableRef} {exempt : Bool} :
      ¬MayDeclare (.createTableLike table exempt source) :=
    id
  exact bind fun exempt => bind fun table => bind fun _ => ite
    (bind fun _ => bind fun _ => pure fun declares => (like declares).elim)
    (bind fun _ => ite (bind fun _ => pure fun declares => (like declares).elim)
      (bind fun _ => ite
        (bind fun _ => bind fun elements => bind fun _ => pure fun _ => ⟨_, _, _, _, rfl⟩)
        (bind fun elements => bind fun _ => pure fun _ => ⟨_, _, _, _, rfl⟩)))

theorem drop : Yields (fun statement => ¬MayDeclare statement) drop :=
  bind fun _ => ite (bind fun _ => bind fun _ => pure id)
    (bind fun _ => ite (bind fun _ => bind fun _ => bind fun _ => pure id)
      (bind fun _ => bind fun _ => ite (bind fun _ => bind fun _ => pure id) (fail _)))

/-- Whether a statement creates a single index. -/
def IsCreateIndex (statement : Statement) : Prop :=
  ∃ table index, statement = .createIndex table index

theorem indexTable (indexName : String) (unique : Bool) :
    Yields IsCreateIndex (indexTable indexName unique) :=
  bind fun _ => bind fun _ => bind fun _ => pure ⟨_, _, rfl⟩

theorem indexStatement (unique : Bool) : Yields IsCreateIndex (indexStatement unique) :=
  bind fun _ => ite
    (bind fun _ => bind fun _ => ite (bind fun _ => indexTable _ _) (indexTable _ _)) (fail _)

/-- What stands after `CREATE`, where neither a database nor a table is created. -/
theorem createIndex : Yields IsCreateIndex (do
    let unique ← eatKeyword ["UNIQUE"]
    if !unique then let _ ← eatKeyword ["FULLTEXT", "SPATIAL"]
    Parser.indexStatement unique) :=
  bind fun _ => ite (bind fun _ => indexStatement _) (indexStatement _)

theorem alterTable :
    Yields (fun statement => ∃ table specs, statement = .alterTable table specs) alterTable :=
  bind fun _ => bind fun _ => pure ⟨_, _, rfl⟩

theorem otherStatement : Yields (fun statement => ¬MayDeclare statement) (do
    if ← eatKeyword ["TRUNCATE"] then
      let _ ← eatKeyword ["TABLE"]
      let table ← tableRef
      expectEnd
      return .truncateTable table
    else if ← eatKeyword ["RENAME"] then
      expectKeyword "TABLE"
      let pairs ← commaSeparated renamePair
      expectEnd
      return .renameTable pairs
    else Parser.fail .unsupported) :=
  bind fun _ => ite (bind fun _ => bind fun _ => bind fun _ => pure id)
    (bind fun _ => ite (bind fun _ => bind fun _ => bind fun _ => pure id) (fail _))

end Yields

theorem declares_of_create {statement : Statement} {first : Token} (declares : MayDeclare statement)
    (isCreate : isKeyword "CREATE" first = true) (read : create tokens = .ok (statement, rest)) :
    List.Forall₂ IndexDeclaration.IsReadAs (declarations (first :: tokens)) statement.indexes := by
  cases tokens with
  | nil => cases read
  | cons second after =>
      rcases bind_eq_ok read with ⟨isDatabase, left, databaseEq, noDatabase⟩
      rcases eatKeyword_eq_ok databaseEq with ⟨rfl, -⟩ | ⟨rfl, same, -⟩
      · rcases bind_eq_ok noDatabase with ⟨_, _, -, named⟩
        rcases bind_eq_ok named with ⟨_, _, -, last⟩
        cases last
        exact declares.elim
      rw [same] at noDatabase
      rcases bind_eq_ok noDatabase with ⟨isTable, left', tableEq, noTable⟩
      rcases eatKeyword_eq_ok tableEq with ⟨rfl, token, tokensEq, isTable⟩ | ⟨rfl, -, notTable⟩
      · cases tokensEq
        rcases Yields.createTable _ _ _ noTable declares with ⟨table, exempt, columns, indexes, rfl⟩
        simp only [List.any_cons, List.any_nil, Bool.or_false] at isTable
        simp only [declarations, isCreate, isTable, if_true]
        rw [Statement.indexes_createTable]
        exact forall₂_createTable noTable
      · rcases Yields.createIndex _ _ _ noTable with ⟨table, index, rfl⟩
        have notTable : isKeyword "TABLE" second = false := by simpa using notTable
        simp only [declarations, isCreate, notTable, if_true, Bool.false_eq_true, if_false]
        exact .cons (isReadAs_createIndex notTable read) .nil

/-- A statement has the indexes that its tokens declare, each with the columns among its parts. -/
theorem declares_of_statement {statement : Statement} (declares : MayDeclare statement)
    (read : Parser.statement tokens = .ok (statement, rest)) :
    List.Forall₂ IndexDeclaration.IsReadAs (declarations tokens) statement.indexes := by
  rcases bind_eq_ok read with ⟨isCreate, afterCreate, createEq, noCreate⟩
  rcases eatKeyword_eq_ok createEq with ⟨rfl, first, tokensEq, create⟩ | ⟨rfl, same, notCreate⟩
  · rw [tokensEq]
    exact declares_of_create declares (by simpa using create) noCreate
  rw [same] at noCreate
  rcases bind_eq_ok noCreate with ⟨isDrop, afterDrop, dropEq, noDrop⟩
  rcases eatKeyword_eq_ok dropEq with ⟨rfl, -⟩ | ⟨rfl, same, -⟩
  · exact absurd declares (Yields.drop _ _ _ noDrop)
  rw [same] at noDrop
  rcases bind_eq_ok noDrop with ⟨isAlter, afterAlter, alterEq, noAlter⟩
  rcases eatKeyword_eq_ok alterEq with ⟨rfl, first, tokensEq, alter⟩ | ⟨rfl, -, -⟩
  · rcases bind_eq_ok noAlter with ⟨isDatabase, left, databaseEq, noDatabase⟩
    rcases eatKeyword_eq_ok databaseEq with ⟨rfl, -⟩ | ⟨rfl, same, -⟩
    · rcases bind_eq_ok noDatabase with ⟨_, _, -, last⟩
      cases last
      exact declares.elim
    rw [same] at noDatabase
    rcases bind_eq_ok noDatabase with ⟨_, afterTable, tableEq, altered⟩
    rcases expectKeyword_eq_ok tableEq with ⟨second, afterEq, isTable⟩
    rcases Yields.alterTable _ _ _ altered with ⟨table, specs, rfl⟩
    rcases forall₂_alterTable altered with ⟨changes, tableRefEq, each⟩
    simp only [tokensEq, afterEq, List.head?_cons, Option.mem_some_iff, forall_eq', List.any_cons,
      List.any_nil, Bool.or_false] at notCreate alter
    rw [tokensEq, afterEq]
    simp only [declarations, notCreate, alter, isTable, Bool.and_self, Bool.false_eq_true, if_false,
      if_true, tableRefEq]
    exact each
  · exact absurd declares (Yields.otherStatement _ _ _ noAlter)

end Parser

end RowLog.Schema
