import RowLog.Proofs.PrimaryNames
import RowLog.Proofs.WrittenStatements

/-!
# Unique keys that are added and dropped by their names

A unique key with a name is added in one of five spellings, and an index is dropped by its name.
Four of the spellings give the index its name; the name of a constraint is read and forgotten, and
the index is named after its first column. So what is added is dropped again by its name exactly if
it was not added as a constraint or if both names are the same. Main statement:
`Catalog.dropIndex_restores_iff`.
-/

namespace RowLog

open Schema

/-- The ways to write that a unique key with a name is added. -/
inductive KeySpelling
  | unique
  | uniqueKey
  | uniqueIndex
  | constraint
  | createIndex
  deriving DecidableEq

namespace KeySpelling

/-- What is written to add a unique key to a table. -/
def signs (ref : TableRef) (key : String) (columns : List String) : KeySpelling → List Sign
  | unique => alter ([.keyword "UNIQUE", .name key] ++ Sign.ofColumns columns)
  | uniqueKey => alter ([.keyword "UNIQUE", .keyword "KEY", .name key] ++ Sign.ofColumns columns)
  | uniqueIndex =>
      alter ([.keyword "UNIQUE", .keyword "INDEX", .name key] ++ Sign.ofColumns columns)
  | constraint =>
      alter ([.keyword "CONSTRAINT", .name key, .keyword "UNIQUE"] ++ Sign.ofColumns columns)
  | createIndex =>
      [.keyword "CREATE", .keyword "UNIQUE", .keyword "INDEX", .name key, .keyword "ON"] ++
        (Sign.ofTable ref ++ Sign.ofColumns columns)
where
  alter (element : List Sign) : List Sign :=
    [.keyword "ALTER", .keyword "TABLE"] ++ (Sign.ofTable ref ++ .keyword "ADD" :: element)

/-- The name that the index is given. -/
def indexName? (key : String) : KeySpelling → Option String
  | constraint => none
  | _ => some key

def index (spelling : KeySpelling) (key : String) (columns : List String) : IndexDef :=
  ⟨spelling.indexName? key, false, true, columns⟩

def statement (spelling : KeySpelling) (ref : TableRef) (key : String) (columns : List String) :
    Statement :=
  match spelling with
  | createIndex => .createIndex ref (spelling.index key columns)
  | _ => .alterTable ref [.addIndex (spelling.index key columns)]

end KeySpelling

/-- What is written to drop an index of a table. -/
def dropIndexSigns (ref : TableRef) (key : String) : List Sign :=
  [.keyword "ALTER", .keyword "TABLE"] ++
    (Sign.ofTable ref ++ [.keyword "DROP", .keyword "INDEX", .name key])

/-! ### Reading what is written -/

namespace Schema.Parser.Reads

variable {signs : List Sign} {key : String} {columns : List String}

theorem alterTable {ref : TableRef} {word : String} {spec : AlterSpec}
    (read : Reads alterSpec (.keyword word :: signs) spec []) :
    Reads statement ([.keyword "ALTER", .keyword "TABLE"] ++
      (Sign.ofTable ref ++ .keyword word :: signs)) (.alterTable ref [spec]) [] := by
  have single (fuel : Nat) : Reads
      (do
        let spec ← alterSpec
        skipElement
        if ← eatPunct ',' then return spec :: (← alterSpecList fuel)
        else
          Parser.expectEnd
          return [spec]) (.keyword word :: signs) [spec] [] :=
    read.bind (skipElement_end.bind ((noPunct_end ',').bind (expectEnd.bind (pure _ _))))
  have specs : Reads (fun tokens => alterSpecList tokens.length tokens) (.keyword word :: signs)
      [spec] [] := by
    intro tokens writes
    cases writes with
    | cons first rest => exact single _ _ (.cons first rest)
  have table : Reads Parser.alterTable (Sign.ofTable ref ++ .keyword word :: signs)
      (.alterTable ref [spec]) [] :=
    (tableRef ref (by simp)).bind (specs.bind (pure _ _))
  exact (noKeyword (by decide)).bind ((noKeyword (by decide)).bind ((keyword (by decide)).bind
    ((noKeyword (by decide)).bind ((expectKeyword (by decide)).bind table))))

theorem indexBody_named (key : String) (notEmpty : columns ≠ []) :
    Reads (indexBody false true) (.name key :: Sign.ofColumns columns)
      ⟨some key, false, true, columns⟩ [] := by
  have list := keyColumns notEmpty []
  rw [List.append_nil] at list
  exact (notAtPunct (by simp)).bind ((notAtKeyword rfl).bind (((name key _).map some).bind
    ((noKeyword rfl).bind (list.bind (skipElement_end.bind (pure _ _))))))

theorem indexBody_unnamed (notEmpty : columns ≠ []) :
    Reads (indexBody false true) (Sign.ofColumns columns) ⟨none, false, true, columns⟩ [] := by
  have list := keyColumns notEmpty []
  rw [List.append_nil] at list
  exact (atPunct '(' _).bind ((notAtKeyword rfl).bind ((pure none _).bind
    ((noKeyword rfl).bind (list.bind (skipElement_end.bind (pure _ _))))))

/-- A change that adds a unique key, perhaps after the name of a constraint and perhaps with a word
more than `UNIQUE`. -/
theorem addUnique {before middle : List Sign} {index : IndexDef} {found : Bool}
    (constraint : Reads constraintName before () (.keyword "UNIQUE" :: signs))
    (kind : Reads (eatKeyword ["KEY", "INDEX"]) signs found middle)
    (body : Reads (indexBody false true) middle index []) :
    Reads alterSpec (.keyword "ADD" :: before) (.addIndex index) [] := by
  have element : Reads indexElement? (.keyword "UNIQUE" :: signs) (some index) [] :=
    (noKeyword (by decide)).bind ((keyword (by decide)).bind (kind.bind (body.bind (pure _ _))))
  exact (keyword (by decide)).bind (constraint.bind (element.bind (pure _ _)))

theorem statement_spelling (spelling : KeySpelling) (ref : TableRef) (key : String)
    (notEmpty : columns ≠ []) :
    Reads statement (spelling.signs ref key columns) (spelling.statement ref key columns) [] := by
  have noConstraint (signs : List Sign) :
      Reads constraintName (.keyword "UNIQUE" :: signs) () (.keyword "UNIQUE" :: signs) :=
    (noKeyword (by decide)).bind (pure _ _)
  have named := indexBody_named key notEmpty
  cases spelling with
  | unique =>
      exact alterTable (addUnique (noConstraint _) (noKeyword rfl) named)
  | uniqueKey =>
      exact alterTable (addUnique (noConstraint _) (keyword (by decide)) named)
  | uniqueIndex =>
      exact alterTable (addUnique (noConstraint _) (keyword (by decide)) named)
  | constraint =>
      have constraint : Reads constraintName
          (.keyword "CONSTRAINT" :: .name key :: .keyword "UNIQUE" :: Sign.ofColumns columns) ()
          (.keyword "UNIQUE" :: Sign.ofColumns columns) :=
        (keyword (by decide)).bind ((notAtKeyword rfl).bind ((name key _).bind (pure _ _)))
      exact alterTable (addUnique constraint (noKeyword rfl) (indexBody_unnamed notEmpty))
  | createIndex =>
      have list := keyColumns notEmpty []
      rw [List.append_nil] at list
      have create : Reads create ([.keyword "UNIQUE", .keyword "INDEX", .name key, .keyword "ON"] ++
          (Sign.ofTable ref ++ Sign.ofColumns columns))
          (.createIndex ref ⟨some key, false, true, columns⟩) [] :=
        (noKeyword (by decide)).bind ((noKeyword (by decide)).bind ((keyword (by decide)).bind
          ((keyword (by decide)).bind ((name key _).bind ((noKeyword (by decide)).bind
            ((expectKeyword (by decide)).bind ((tableRef ref (by simp)).bind
              (list.bind (pure _ _)))))))))
      exact (keyword (by decide)).bind create

theorem statement_dropIndex (ref : TableRef) (key : String) :
    Reads statement (dropIndexSigns ref key) (.alterTable ref [.dropIndex key]) [] := by
  have drop : Reads dropSpec [.keyword "INDEX", .name key] (.dropIndex key) [] :=
    (noKeyword (by decide)).bind ((keyword (by decide)).bind ((name key _).bind (pure _ _)))
  exact alterTable ((noKeyword (by decide)).bind ((keyword (by decide)).bind drop))

end Schema.Parser.Reads

/-! ### Adding and dropping -/

namespace TableDef

variable {definition : TableDef} {index : IndexDef} {listed : TableIndex} {key : String}

/-- An index that is not the primary key is listed if its columns are there and its name, if it is
given one, is free. -/
theorem exists_listsAs (index : IndexDef) (notPrimary : index.primary = false)
    (notEmpty : index.columns ≠ [])
    (areColumns : ∀ column ∈ index.columns, definition.hasColumn column = true)
    (isFree : ∀ name ∈ index.name, definition.hasIndex name = false) :
    ∃ listed, definition.ListsAs index listed := by
  have each : ∀ name ∈ index.columns, ∃ spelled, ∃ column, definition.column? name = some column ∧
      column.name = spelled := by
    intro name nameMem
    rcases Option.isSome_iff_exists.mp (areColumns name nameMem) with ⟨column, found⟩
    exact ⟨column.name, column, found, rfl⟩
  rcases exists_forall₂ each with ⟨columns, spelled⟩
  have columnsEq := declaredColumns_eq_ok_iff.mpr spelled
  have spelledNotEmpty : columns ≠ [] := by
    rintro rfl
    exact notEmpty (List.forall₂_nil_right_iff.mp spelled)
  cases name : index.name with
  | none =>
      refine ⟨⟨definition.defaultIndexName (columns.headD ""), index.primary, index.unique,
        columns⟩,
        rfl, rfl, columnsEq, spelledNotEmpty, ?_⟩
      simp [indexName, notPrimary, name]
  | some given =>
      refine ⟨⟨given, index.primary, index.unique, columns⟩, rfl, rfl, columnsEq,
        spelledNotEmpty, ?_⟩
      simp [indexName, notPrimary, name, isFree given name]

theorem ListsAs.name_of_given (lists : definition.ListsAs index listed)
    (notPrimary : index.primary = false) (given : index.name = some key) : listed.name = key := by
  have nameEq := lists.name_eq
  simp only [indexName, notPrimary, Bool.false_eq_true, if_false, given] at nameEq
  split at nameEq
  · contradiction
  · exact (Except.ok.inj nameEq).symm

theorem ListsAs.name_of_none (lists : definition.ListsAs index listed)
    (notPrimary : index.primary = false) (notGiven : index.name = none) :
    ∃ column, definition.column? (index.columns.headD "") = some column ∧
      listed.name = definition.defaultIndexName column.name := by
  have nameEq := lists.name_eq
  simp only [indexName, notPrimary, Bool.false_eq_true, if_false, notGiven] at nameEq
  have columnsEq := declaredColumns_eq_ok_iff.mp lists.columns_eq
  have notEmpty := lists.notEmpty
  generalize index.columns = names at columnsEq
  generalize listed.columns = spelled at columnsEq nameEq notEmpty
  cases columnsEq with
  | nil => contradiction
  | cons first rest =>
      rcases first with ⟨column, found, rfl⟩
      exact ⟨column, found, (Except.ok.inj nameEq).symm⟩

theorem dropIndex_added (isNew : definition.hasIndex key = false) :
    { definition with indexes := definition.indexes ++ [listed] }.dropIndex key =
      if sameIgnoringCase listed.name key then .ok definition else .error (.nothingToDrop key) := by
  have others := hasIndex_eq_false_iff.mp isNew
  cases same : sameIgnoringCase listed.name key with
  | true =>
      have erased : (definition.indexes ++ [listed]).eraseP
          (fun index => sameIgnoringCase index.name key) = definition.indexes := by
        rw [List.eraseP_append_right _ (by simpa using others)]
        simp [same]
      simp [dropIndex, hasIndex, same, erased]
  | false =>
      have noneNamed : (definition.indexes.any fun index => sameIgnoringCase index.name key) =
          false := isNew
      simp [dropIndex, hasIndex, same, noneNamed]

end TableDef

/-- Whether a table is referred to by what is written for it, where a database may be selected. -/
def Schema.TableRef.RefersTo (ref : TableRef) (schema : Option String) (name : QualifiedName) :
    Prop :=
  ref.schema.or schema = some name.schema ∧ ref.name = name.table

instance (ref : TableRef) (schema : Option String) (name : QualifiedName) :
    Decidable (ref.RefersTo schema name) :=
  inferInstanceAs (Decidable (_ ∧ _))

theorem Schema.TableRef.RefersTo.resolve {ref : TableRef} {schema : Option String}
    {name : QualifiedName} (refers : ref.RefersTo schema name) (statement : Statement) :
    Ddl.resolve ⟨schema, statement⟩ ref = .ok name := by
  rcases refers with ⟨schemaEq, tableEq⟩
  simp [Ddl.resolve, schemaEq, tableEq]

/-- Whether a text adds a unique key with a name to a table, in one of the spellings. -/
def KeySpelling.IsAdded (spelling : KeySpelling) (text : String) (name : QualifiedName)
    (key : String) (columns : List String) : Prop :=
  ∃ schema ref, ref.RefersTo schema name ∧
    Ddl.IsWrittenAs text schema (spelling.signs ref key columns)

/-- Whether a text drops an index of a table by its name. -/
def IsDropped (text : String) (name : QualifiedName) (key : String) : Prop :=
  ∃ schema ref, ref.RefersTo schema name ∧ Ddl.IsWrittenAs text schema (dropIndexSigns ref key)

namespace Catalog

variable {catalog : Catalog} {name : QualifiedName} {definition : TableDef} {key text : String}
  {columns : List String} {spelling : KeySpelling}

theorem execute_of_isAdded (found : catalog.table? name = some definition)
    (notEmpty : columns ≠ []) (added : spelling.IsAdded text name key columns)
    {next : TableDef} (listed : definition.addIndex (spelling.index key columns) = .ok next) :
    ∃ after, catalog.execute text = (after, .ok ()) ∧ after.table? name = some next ∧
      ∀ other, name ≠ other → after.table? other = catalog.table? other := by
  rcases added with ⟨schema, ref, refers, written⟩
  have read := Parser.Reads.statement_spelling spelling ref key notEmpty
  cases spelling with
  | createIndex =>
      have parsed := Ddl.parse_of_isWrittenAs written read (by decide)
      refine ⟨catalog.redefine name next, ?_, by simp, fun other differs => ?_⟩
      · rw [execute_createIndex parsed rfl (refers.resolve _) found]
        exact settle_map_eq_ok listed
      · exact table?_redefine_of_ne differs
  | unique | uniqueKey | uniqueIndex | constraint =>
      have parsed := Ddl.parse_of_isWrittenAs written read (by decide)
      refine ⟨catalog.setTable name next, ?_, by simp, fun other differs => ?_⟩
      · rw [execute_alterTable parsed rfl rfl (refers.resolve _) found]
        exact settle_map_eq_ok listed
      · exact table?_setTable_of_ne differs

/-- A unique key with a name that no index of its table has is added in any spelling. To drop it by
this name is accepted exactly if it was not added as a constraint or is named after its first column
all the same; and then every table is as it was. -/
theorem dropIndex_restores_iff (catalog : Catalog) (name : QualifiedName) (definition : TableDef)
    (key : String) (columns : List String) (spelling : KeySpelling) (addText dropText : String)
    (found : catalog.table? name = some definition) (isNew : definition.hasIndex key = false)
    (notEmpty : columns ≠ [])
    (areColumns : ∀ column ∈ columns, definition.hasColumn column = true)
    (isAdded : spelling.IsAdded addText name key columns)
    (isDropped : IsDropped dropText name key) :
    ∃ added, catalog.execute addText = (added, .ok ()) ∧
      ((added.execute dropText).2 = .ok () ↔
        spelling ≠ .constraint ∨ ∃ column, definition.column? (columns.headD "") = some column ∧
          sameIgnoringCase (definition.defaultIndexName column.name) key = true) ∧
      ((added.execute dropText).2 = .ok () →
        ∀ other, (added.execute dropText).1.tableInfo other = catalog.tableInfo other) := by
  have isFree : ∀ given ∈ (spelling.index key columns).name, definition.hasIndex given = false := by
    intro given givenEq
    cases spelling <;> simp_all [KeySpelling.index, KeySpelling.indexName?]
  rcases TableDef.exists_listsAs (spelling.index key columns) rfl notEmpty areColumns
    isFree with ⟨listed, lists⟩
  have listedEq := TableDef.addIndex_eq_ok_iff.mpr (.inr ⟨listed, lists, rfl⟩)
  rcases execute_of_isAdded found notEmpty isAdded listedEq with
    ⟨added, addedEq, addedSelf, addedOthers⟩
  rcases isDropped with ⟨schema, ref, refers, written⟩
  have parsed := Ddl.parse_of_isWrittenAs written (Parser.Reads.statement_dropIndex ref key)
    (by decide)
  have executed := execute_alterTable parsed rfl rfl (refers.resolve _) addedSelf
  have dropped : TableDef.alter { definition with indexes := definition.indexes ++ [listed] }
      (.dropIndex key) = _ :=
    TableDef.dropIndex_added isNew
  -- Whether the index has the name by which it is dropped depends on the spelling alone.
  have named : sameIgnoringCase listed.name key = true ↔
      spelling ≠ .constraint ∨ ∃ column, definition.column? (columns.headD "") = some column ∧
        sameIgnoringCase (definition.defaultIndexName column.name) key = true := by
    cases spelling with
    | constraint =>
        rcases lists.name_of_none rfl rfl with ⟨column, columnEq, nameEq⟩
        rw [nameEq]
        constructor
        · intro same
          exact .inr ⟨column, columnEq, same⟩
        · rintro (differs | ⟨other, otherEq, same⟩)
          · contradiction
          · rwa [← Option.some.inj (otherEq.symm.trans columnEq)]
    | unique | uniqueKey | uniqueIndex | createIndex =>
        simp [lists.name_of_given rfl rfl]
  refine ⟨added, addedEq, ?_⟩
  rw [← named]
  cases same : sameIgnoringCase listed.name key with
  | true =>
      rw [same, if_pos rfl] at dropped
      rw [executed, settle_map_eq_ok dropped]
      refine ⟨by simp, fun _ other => tableInfo_congr ?_⟩
      by_cases self : name = other
      · rw [← self, table?_setTable_self, found]
      · rw [table?_setTable_of_ne self, addedOthers other self]
  | false =>
      rw [same, if_neg (by simp)] at dropped
      rw [executed, settle_map_eq_error dropped]
      simp

/-- A key that is added with the name of a constraint, which is that of its first column, and one
that is added without; the database is in use the first time. -/
theorem dropIndex_restores_of_two_spellings :
    let catalog := empty.executeEach ["create table s.t (a int, b int, unique key (b))"]
    let first := (catalog.execute "use s; Alter Table t Add Constraint A Unique (\x60a\x60, b)").1
    let second := (catalog.execute "create unique index uk on s.t (b, a)").1
    (∀ other, (first.execute "ALTER TABLE s.t DROP INDEX A").1.tableInfo other =
        catalog.tableInfo other) ∧
      ∀ other, (second.execute "alter table s.\x60t\x60 drop index uk").1.tableInfo other =
        catalog.tableInfo other := by
  intro catalog first second
  let definition : TableDef := ⟨[⟨"a", false, false, false⟩, ⟨"b", false, false, false⟩],
    [⟨"b", false, true, ["b"]⟩]⟩
  have found : catalog.table? ⟨"s", "t"⟩ = some definition := by decide +kernel
  constructor
  · have isAdded : KeySpelling.constraint.IsAdded
        "use s; Alter Table t Add Constraint A Unique (\x60a\x60, b)" ⟨"s", "t"⟩ "A" ["a", "b"] :=
      ⟨some "s", ⟨none, "t"⟩, by decide, by decide +kernel⟩
    have isDropped : IsDropped "ALTER TABLE s.t DROP INDEX A" ⟨"s", "t"⟩ "A" :=
      ⟨none, ⟨some "s", "t"⟩, by decide, by decide +kernel⟩
    rcases dropIndex_restores_iff catalog _ definition "A" ["a", "b"] .constraint _ _ found
      (by decide) (by decide) (by decide) isAdded isDropped with ⟨added, addedEq, dropped, restored⟩
    have addedFirst : first = added := congrArg Prod.fst addedEq
    rw [addedFirst]
    exact restored (dropped.mpr (.inr ⟨_, rfl, by decide⟩))
  · have isAdded : KeySpelling.createIndex.IsAdded "create unique index uk on s.t (b, a)"
        ⟨"s", "t"⟩ "uk" ["b", "a"] :=
      ⟨none, ⟨some "s", "t"⟩, by decide, by decide +kernel⟩
    have isDropped : IsDropped "alter table s.\x60t\x60 drop index uk" ⟨"s", "t"⟩ "uk" :=
      ⟨none, ⟨some "s", "t"⟩, by decide, by decide +kernel⟩
    rcases dropIndex_restores_iff catalog _ definition "uk" ["b", "a"] .createIndex _ _ found
      (by decide) (by decide) (by decide) isAdded isDropped with ⟨added, addedEq, dropped, restored⟩
    have addedSecond : second = added := congrArg Prod.fst addedEq
    rw [addedSecond]
    exact restored (dropped.mpr (.inl (by decide)))

/-- The name of a constraint is not the name of the index. -/
theorem exists_constraint_not_dropped :
    let catalog := empty.executeEach ["create table s.t (a int, b int)"]
    let added := catalog.execute "alter table s.t add constraint uk unique (a, b)"
    added.2 = .ok () ∧
      added.1.tableInfo ⟨"s", "t"⟩ = .ok ⟨["a", "b"], none, [⟨"a", ["a", "b"]⟩]⟩ ∧
      (added.1.execute "alter table s.t drop index uk").2 =
        .error (.invalid "alter table s.t drop index uk" (.refused (.nothingToDrop "uk"))) := by
  decide +kernel

end Catalog

end RowLog
