import Mathlib.Data.List.ReduceOption
import RowLog.Proofs.IndexDeclarations
import RowLog.Proofs.KeyColumns

/-!
# The keys that statements declare

A table lists the indexes that an accepted statement declares, in the order of their declaration,
each over the columns among its parts: the expressions are left out, and an index of nothing but
expressions is passed over. So an index is listed over what it is declared over exactly if it has no
expression. Main statement: `Catalog.lists_declared_indexes`.
-/

namespace RowLog

open Schema

namespace Schema.Ddl

/-- The tokens of the statement of a text, which comes last. -/
def statementTokens (text : String) : List Token :=
  match Token.scan text.toList with
  | .ok tokens => (((splitStatements tokens).filter fun part => !part.isEmpty).getLast?).getD []
  | .error _ => []

/-- The indexes that a text declares. -/
def declaredIndexes (text : String) : List IndexDeclaration :=
  declarations (statementTokens text)

variable {ddl : Ddl} {schema : Option String} {parts : List (List Token)} {text : String}

theorem ofParts_of_found {statement : Statement}
    (read : ofParts schema (some statement) parts = .ok ddl) :
    parts = [] ∧ ddl.statement = statement := by
  cases parts with
  | nil =>
      cases read
      exact ⟨rfl, rfl⟩
  | cons part rest =>
      rcases bind_eq_ok_iff.mp read with ⟨⟨selects, tokens⟩, -, later⟩
      cases selects <;> cases later

theorem statement_of_ofParts (read : ofParts schema none parts = .ok ddl) :
    ∃ part rest, parts.getLast? = some part ∧
      Parser.statement part = .ok (ddl.statement, rest) := by
  induction parts generalizing schema with
  | nil => cases read
  | cons part others ih =>
      rcases bind_eq_ok_iff.mp read with ⟨⟨selects, tokens⟩, useEq, later⟩
      cases selects with
      | true =>
          rcases bind_eq_ok_iff.mp later with ⟨⟨selected, _⟩, -, remaining⟩
          rcases ih remaining with ⟨last, rest, lastEq, statementEq⟩
          exact ⟨last, rest, by simp [List.getLast?_cons, lastEq], statementEq⟩
      | false =>
          rcases bind_eq_ok_iff.mp later with ⟨⟨statement, rest⟩, statementEq, remaining⟩
          rcases ofParts_of_found remaining with ⟨noOthers, same⟩
          rcases Parser.eatKeyword_eq_ok useEq with ⟨isUse, -⟩ | ⟨-, tokensEq, -⟩
          · contradiction
          · rw [tokensEq] at statementEq
            rw [same, noOthers]
            exact ⟨part, rest, rfl, statementEq⟩

theorem statement_of_parse (parsed : parse text = .ok ddl) :
    ∃ rest, Parser.statement (statementTokens text) = .ok (ddl.statement, rest) := by
  unfold parse Ddl.read at parsed
  unfold statementTokens
  cases scanned : Token.scan text.toList with
  | error cause => simp [scanned, bind, Except.bind, Except.mapError] at parsed
  | ok tokens =>
      cases partsEq : ofTokens tokens with
      | error cause => simp [scanned, partsEq, bind, Except.bind, Except.mapError] at parsed
      | ok found =>
          simp only [scanned, partsEq, bind, Except.bind, Except.mapError,
            Except.ok.injEq] at parsed
          rw [parsed] at partsEq
          rcases statement_of_ofParts partsEq with ⟨part, rest, lastEq, statementEq⟩
          exact ⟨rest, by simpa [lastEq] using statementEq⟩

/-- The indexes that a text declares are those of its statement, but for their expressions. -/
theorem declares_of_parse (parsed : parse text = .ok ddl)
    (declares : Parser.MayDeclare ddl.statement) :
    List.Forall₂ IndexDeclaration.IsReadAs (declaredIndexes text) ddl.statement.indexes := by
  rcases statement_of_parse parsed with ⟨rest, statementEq⟩
  exact Parser.declares_of_statement declares statementEq

end Schema.Ddl

namespace Schema.IndexDeclaration

variable {declaration : IndexDeclaration} {index : IndexDef} {listed : TableIndex}

/-- Whether an index of a table is over the columns among the parts of a declared one, in their
order. -/
structure IsListedAs (declaration : IndexDeclaration) (listed : TableIndex) : Prop where
  primary_eq : listed.primary = declaration.primary
  unique_eq : listed.unique = declaration.unique
  columns : List.Forall₂ (fun name column => sameIgnoringCase column name = true)
    declaration.parts.reduceOption listed.columns

/-- Whether an index of a table is over the parts of a declared one, all of which are columns. -/
def IsWhole (declaration : IndexDeclaration) (listed : TableIndex) : Prop :=
  List.Forall₂ (fun part column => ∃ name ∈ part, sameIgnoringCase column name = true)
    declaration.parts listed.columns

theorem map_reduceOption {α : Type} {parts : List (Option α)} (noExpression : none ∉ parts) :
    parts.reduceOption.map some = parts := by
  induction parts with
  | nil => rfl
  | cons part rest ih =>
      cases part with
      | none => simp at noExpression
      | some name =>
          rw [List.reduceOption_cons_of_some, List.map_cons, ih (by simpa using noExpression)]

theorem IsListedAs.isWhole_iff (isListed : declaration.IsListedAs listed) :
    declaration.IsWhole listed ↔ none ∉ declaration.parts := by
  constructor
  · intro isWhole expression
    rcases exists_mem_of_forall₂ isWhole.flip expression with ⟨column, -, name, named, -⟩
    contradiction
  · intro noExpression
    have each := isListed.columns
    unfold IsWhole
    rw [← map_reduceOption noExpression, List.forall₂_map_left_iff]
    exact each.imp fun name column same => ⟨name, rfl, same⟩

end Schema.IndexDeclaration

/-! ### Adding to a definition -/

/-- Whether an index of a table is over the columns that a declared one is read with, in their
order. -/
structure TableIndex.IsFor (listed : TableIndex) (index : IndexDef) : Prop where
  primary_eq : listed.primary = index.primary
  unique_eq : listed.unique = index.unique
  columns : List.Forall₂ (fun name column => sameIgnoringCase column name = true) index.columns
    listed.columns

theorem Schema.IndexDeclaration.IsReadAs.isListedAs {declaration : IndexDeclaration}
    {index : IndexDef} {listed : TableIndex} (isRead : declaration.IsReadAs index)
    (isFor : listed.IsFor index) : declaration.IsListedAs listed where
  primary_eq := isFor.primary_eq.trans isRead.primary_eq
  unique_eq := isFor.unique_eq.trans isRead.unique_eq
  columns := by
    rw [← isRead.columns_eq]
    exact isFor.columns

namespace TableDef

variable {definition next : TableDef} {index : IndexDef} {listed : TableIndex}

theorem ListsAs.isFor (lists : definition.ListsAs index listed) : listed.IsFor index := by
  refine ⟨lists.primary_eq, lists.unique_eq, (declaredColumns_eq_ok_iff.mp lists.columns_eq).imp ?_⟩
  rintro name spelled ⟨column, found, rfl⟩
  exact same_of_column?_eq_some found

theorem ListsAs.asked_ne_nil (lists : definition.ListsAs index listed) : index.columns ≠ [] := by
  intro noColumns
  have columns := lists.isFor.columns
  rw [noColumns, List.forall₂_nil_left_iff] at columns
  exact lists.notEmpty columns

theorem subset_addIndex (added : definition.addIndex index = .ok next) :
    definition.indexes ⊆ next.indexes := by
  rcases addIndex_eq_ok_iff.mp added with ⟨-, rfl⟩ | ⟨_, -, rfl⟩
  · exact List.Subset.refl _
  · exact List.subset_append_left _ _

theorem subset_addInlineIndex {column : ColumnDef}
    (added : definition.addInlineIndex column = .ok next) : definition.indexes ⊆ next.indexes := by
  rcases addInlineIndex_eq_ok added with rfl | ⟨index, -, indexed⟩
  · exact List.Subset.refl _
  · exact subset_addIndex indexed

theorem subset_addColumn {column : ColumnDef} {position : Position}
    (added : definition.addColumn column position = .ok next) :
    definition.indexes ⊆ next.indexes := by
  rcases addColumn_eq_ok added with ⟨-, inserted, insertedEq, indexed⟩
  rw [← (insertColumn_eq_ok insertedEq).1]
  exact subset_addInlineIndex indexed

theorem subset_addColumns {columns : List ColumnDef} {position : Position}
    (added : definition.addColumns position columns = .ok next) :
    definition.indexes ⊆ next.indexes := by
  induction columns generalizing definition position with
  | nil =>
      cases added
      exact List.Subset.refl _
  | cons column rest ih =>
      rcases bind_eq_ok_iff.mp added with ⟨middle, first, later⟩
      exact List.Subset.trans (subset_addColumn first) (ih later)

theorem alterAll_append_eq_ok {earlier later : List AlterSpec}
    (altered : definition.alterAll (earlier ++ later) = .ok next) :
    ∃ middle, definition.alterAll earlier = .ok middle ∧ middle.alterAll later = .ok next := by
  rw [alterAll, List.foldlM_append] at altered
  exact bind_eq_ok_iff.mp altered

/-! ### Changes that spare an index -/

/-- Whether a column that gets a new name is none of an index, unless it already has this name. -/
def KeepsName (listed : TableIndex) (old new : String) : Prop :=
  ∀ name ∈ listed.columns, sameIgnoringCase name old = true → name = new

/-- Whether a change neither drops nor renames an index or one of its columns. -/
def SparesIndex (listed : TableIndex) : AlterSpec → Prop
  | .dropColumn dropped => ∀ name ∈ listed.columns, sameIgnoringCase name dropped = false
  | .modifyColumn column _ => KeepsName listed column.name column.name
  | .changeColumn old column _ => KeepsName listed old column.name
  | .renameColumn source target => KeepsName listed source target
  | .dropPrimaryKey => sameIgnoringCase listed.name primaryKeyName = false
  | .dropIndex name => sameIgnoringCase listed.name name = false
  | .renameIndex source _ => sameIgnoringCase listed.name source = false
  | _ => True

theorem mem_renameInIndexes {source target : String} (keeps : KeepsName listed source target)
    (listedMem : listed ∈ definition.indexes) :
    listed ∈ (definition.renameInIndexes source target).indexes := by
  have columnsEq : listed.columns.map (fun column =>
      if sameIgnoringCase column source then target else column) = listed.columns := by
    refine (List.map_congr_left fun name nameMem => ?_).trans (List.map_id _)
    split
    · next same => exact (keeps name nameMem same).symm
    · rfl
  refine List.mem_map.mpr ⟨listed, listedMem, ?_⟩
  rw [columnsEq]

theorem mem_eraseFromIndexes {dropped : String} (notEmpty : listed.columns ≠ [])
    (spared : ∀ name ∈ listed.columns, sameIgnoringCase name dropped = false)
    (listedMem : listed ∈ definition.indexes) :
    listed ∈ (definition.eraseFromIndexes dropped).indexes := by
  have columnsEq : (listed.columns.filter fun column => !sameIgnoringCase column dropped) =
      listed.columns :=
    List.filter_eq_self.mpr fun name nameMem => by simp [spared name nameMem]
  refine List.mem_filter.mpr ⟨List.mem_map.mpr ⟨listed, listedMem, ?_⟩, by simpa using notEmpty⟩
  rw [columnsEq]

theorem mem_updateIndex_of_differs {name : String} {change : TableIndex → TableIndex}
    {indexes : List TableIndex} (differs : sameIgnoringCase listed.name name = false)
    (listedMem : listed ∈ indexes) : listed ∈ updateIndex name change indexes := by
  induction indexes with
  | nil => simp at listedMem
  | cons first rest ih =>
      rw [updateIndex]
      rcases List.mem_cons.mp listedMem with rfl | laterMem
      · simp [differs]
      · split
        · simp [laterMem]
        · simp [ih laterMem]

theorem mem_dropIndex {name : String} (differs : sameIgnoringCase listed.name name = false)
    (listedMem : listed ∈ definition.indexes) (dropped : definition.dropIndex name = .ok next) :
    listed ∈ next.indexes := by
  rcases dropIndex_eq_ok dropped with ⟨before, found, after, indexesEq, -, same, rfl⟩
  rw [indexesEq] at listedMem
  rcases List.mem_append.mp listedMem with beforeMem | laterMem
  · exact List.mem_append_left _ beforeMem
  · rcases List.mem_cons.mp laterMem with rfl | afterMem
    · simp [differs] at same
    · exact List.mem_append_right _ afterMem

theorem mem_replaceColumn {old : String} {column : ColumnDef} {position : Position}
    (keeps : KeepsName listed old column.name) (listedMem : listed ∈ definition.indexes)
    (replaced : definition.replaceColumn old column position = .ok next) :
    listed ∈ next.indexes := by
  rcases replaceColumn_eq_ok replaced with ⟨-, placed, indexesEq, -, indexed⟩
  apply subset_addInlineIndex indexed
  rw [indexesEq]
  exact mem_renameInIndexes keeps listedMem

theorem mem_alter {spec : AlterSpec} (spares : SparesIndex listed spec)
    (notEmpty : listed.columns ≠ []) (listedMem : listed ∈ definition.indexes)
    (altered : definition.alter spec = .ok next) : listed ∈ next.indexes := by
  cases spec with
  | addColumns columns position => exact subset_addColumns altered listedMem
  | dropColumn name =>
      rcases dropColumn_eq_ok altered with rfl
      exact mem_eraseFromIndexes notEmpty spares listedMem
  | modifyColumn column position => exact mem_replaceColumn spares listedMem altered
  | changeColumn old column position => exact mem_replaceColumn spares listedMem altered
  | renameColumn source target =>
      rcases renameColumn_eq_ok altered with ⟨-, -, rfl⟩
      exact mem_renameInIndexes spares listedMem
  | addIndex index => exact subset_addIndex altered listedMem
  | dropPrimaryKey => exact mem_dropIndex spares listedMem altered
  | dropIndex name => exact mem_dropIndex spares listedMem altered
  | renameIndex source target =>
      rcases renameIndex_eq_ok altered with ⟨-, rfl⟩
      exact mem_updateIndex_of_differs spares listedMem
  | renameTable target =>
      cases altered
      exact listedMem
  | other =>
      cases altered
      exact listedMem

theorem mem_alterAll {specs : List AlterSpec} (spare : ∀ spec ∈ specs, SparesIndex listed spec)
    (notEmpty : listed.columns ≠ []) (listedMem : listed ∈ definition.indexes)
    (altered : definition.alterAll specs = .ok next) : listed ∈ next.indexes :=
  holds_alterAll (fun _ _ _ spares listedMem altered => mem_alter spares notEmpty listedMem altered)
    spare listedMem altered

/-- Whether a definition has an index and lists it as its primary key or among its unique keys. -/
structure Lists (definition : TableDef) (listed : TableIndex) : Prop where
  mem : listed ∈ definition.indexes
  primaryKey : listed.primary = true → definition.info.primaryKey = some listed.info
  uniqueKeys : listed.unique = true → listed.primary = false →
    listed.info ∈ definition.info.uniqueKeys

theorem IsWellFormed.eq_of_primary (wellFormed : definition.IsWellFormed)
    {first second : TableIndex} (firstMem : first ∈ definition.indexes)
    (secondMem : second ∈ definition.indexes) (firstPrimary : first.primary = true)
    (secondPrimary : second.primary = true) : first = second := by
  by_contra differ
  have symmetric : Std.Symm fun left right : TableIndex =>
      ¬(left.primary = true ∧ right.primary = true) :=
    ⟨fun left right notBoth both => notBoth both.symm⟩
  exact wellFormed.one_primary.forall firstMem secondMem differ ⟨firstPrimary, secondPrimary⟩

theorem IsWellFormed.lists (wellFormed : definition.IsWellFormed)
    (listedMem : listed ∈ definition.indexes) : definition.Lists listed where
  mem := listedMem
  primaryKey := by
    intro primary
    cases found : definition.indexes.find? (·.primary) with
    | none => simp [List.find?_eq_none.mp found listed listedMem] at primary
    | some first =>
        have firstPrimary : first.primary = true := by simpa using List.find?_some found
        have same := wellFormed.eq_of_primary (List.mem_of_find?_eq_some found) listedMem
          firstPrimary primary
        simp [info, found, same]
  uniqueKeys := by
    intro unique notPrimary
    exact List.mem_map_of_mem (List.mem_filter.mpr ⟨listedMem, by simp [unique, notPrimary]⟩)

end TableDef

/-- What is added for a declared index, over the columns among its parts. -/
theorem Schema.IndexDeclaration.IsReadAs.exists_added {declaration : IndexDeclaration}
    {index : IndexDef} {middle next : TableDef} (isRead : declaration.IsReadAs index)
    (added : middle.addIndex index = .ok next) :
    (declaration.parts.reduceOption = [] → next = middle) ∧
      (declaration.parts.reduceOption ≠ [] → ∃ listed,
        next.indexes = middle.indexes ++ [listed] ∧ listed.columns ≠ [] ∧
          declaration.IsListedAs listed) := by
  rw [← isRead.columns_eq]
  rcases TableDef.addIndex_eq_ok_iff.mp added with ⟨noColumns, rfl⟩ | ⟨listed, lists, rfl⟩
  · exact ⟨fun _ => rfl, fun someColumns => absurd noColumns someColumns⟩
  · refine ⟨fun noColumns => absurd noColumns lists.asked_ne_nil, fun _ => ?_⟩
    exact ⟨listed, rfl, lists.notEmpty, isRead.isListedAs lists.isFor⟩

/-! ### Executing a statement -/

namespace Catalog

open TableDef (SparesIndex)

variable {catalog : Catalog} {ddl : Ddl} {name : QualifiedName} {text : String}

/-- The definition that the changes of a statement start from: the empty one for a new table. -/
def start? (catalog : Catalog) (ddl : Ddl) : Option TableDef :=
  match ddl.statement with
  | .createTable _ _ _ _ => some .empty
  | .createIndex table _ | .alterTable table _ => (ddl.resolve table).toOption.bind catalog.table?
  | _ => none

/-- Whether a statement defines a table, which has a given name after it. A table that is to be
created only if it does not exist must not exist. -/
def IsDefinedBy (catalog : Catalog) (ddl : Ddl) (name : QualifiedName) : Prop :=
  match ddl.statement with
  | .createTable table exempt _ _ =>
      ddl.resolve table = .ok name ∧ (exempt = true → catalog.table? name = none)
  | .createIndex table _ => ddl.resolve table = .ok name
  | .alterTable table specs => ∃ source, ddl.resolve table = .ok source ∧
      LeadsTo ddl source name (specs.filterMap AlterSpec.newName?)
  | _ => False

theorem eq_ok_of_settle {result : Except CatalogError Catalog}
    (accepted : (catalog.settle result).2 = .ok ()) :
    ∃ next, result = .ok next ∧ (catalog.settle result).1 = next := by
  cases result with
  | error cause => cases accepted
  | ok next => exact ⟨next, rfl, rfl⟩

theorem leadsTo_unique {source target : QualifiedName} {refs : List TableRef}
    (leads : LeadsTo ddl source target refs) (leadsToo : LeadsTo ddl source name refs) :
    target = name := by
  unfold LeadsTo at leads leadsToo
  cases last : refs.getLast? with
  | none =>
      simp only [last] at leads leadsToo
      rw [leads, leadsToo]
  | some ref =>
      simp only [last] at leads leadsToo
      exact Except.ok.inj (leads.symm.trans leadsToo)

theorem alterAll_of_apply (isDefined : catalog.IsDefinedBy ddl name)
    (isAccepted : (catalog.apply ddl text).2 = .ok ()) :
    ∃ before after, catalog.start? ddl = some before ∧
      before.alterAll ddl.statement.changes = .ok after ∧
      (catalog.apply ddl text).1.table? name = some after := by
  unfold apply at isAccepted ⊢
  unfold IsDefinedBy at isDefined
  unfold start?
  cases statementEq : ddl.statement with
  | createTable table exempt columns indexes =>
      simp only [statementEq] at isDefined isAccepted ⊢
      rcases isDefined with ⟨resolved, isNew⟩
      rcases eq_ok_of_settle isAccepted with ⟨next, effectEq, nextEq⟩
      rcases bind_eq_ok_iff.mp effectEq with ⟨found, foundEq, created⟩
      rw [Except.ok.inj (foundEq.symm.trans resolved)] at created
      have mustCreate : (exempt && (catalog.table? name).isSome) = false := by
        cases exempt with
        | false => rfl
        | true => simp [isNew rfl]
      rw [createTable, if_neg (by simp [mustCreate])] at created
      rcases map_eq_ok_iff.mp created with ⟨after, afterEq, settled⟩
      have altered := accepted_eq_ok_iff.mp afterEq
      rw [TableDef.ofElements_eq] at altered
      refine ⟨.empty, after, rfl, altered, ?_⟩
      rw [nextEq, ← settled, table?_setTable_self]
  | createIndex table index =>
      simp only [statementEq] at isDefined isAccepted ⊢
      rcases eq_ok_of_settle isAccepted with ⟨next, effectEq, nextEq⟩
      rcases bind_eq_ok_iff.mp effectEq with ⟨found, foundEq, changed⟩
      rw [Except.ok.inj (foundEq.symm.trans isDefined)] at changed
      rcases bind_eq_ok_iff.mp changed with ⟨before, lookedEq, changed⟩
      rcases bind_eq_ok_iff.mp changed with ⟨after, afterEq, settled⟩
      have beforeEq := lookup_eq_ok_iff.mp lookedEq
      refine ⟨before, after, by simp [isDefined, Except.toOption, beforeEq], ?_, ?_⟩
      · rw [Statement.changes, TableDef.alterAll_singleton]
        exact accepted_eq_ok_iff.mp afterEq
      · rw [nextEq, ← Except.ok.inj settled, table?_redefine_self]
  | alterTable table specs =>
      simp only [statementEq] at isDefined isAccepted ⊢
      rcases isDefined with ⟨source, resolved, leads⟩
      rcases eq_ok_of_settle isAccepted with ⟨next, effectEq, nextEq⟩
      rcases bind_eq_ok_iff.mp effectEq with ⟨found, foundEq, changed⟩
      rw [Except.ok.inj (foundEq.symm.trans resolved)] at changed
      rcases bind_eq_ok_iff.mp changed with ⟨before, lookedEq, changed⟩
      rcases bind_eq_ok_iff.mp changed with ⟨⟨target, after⟩, steps, settled⟩
      rcases alterAll_of_foldlM_alterStep steps with ⟨altered, targetLeads⟩
      have beforeEq := lookup_eq_ok_iff.mp lookedEq
      have targetEq : target = name := leadsTo_unique targetLeads leads
      refine ⟨before, after, by simp [resolved, Except.toOption, beforeEq], altered, ?_⟩
      rw [nextEq, ← Except.ok.inj settled, targetEq, table?_moveTable_self]
  | createDatabase _ _ | alterDatabase _ | dropDatabase _ _ | createTableLike _ _ _
  | dropTable _ _ | truncateTable _ | renameTable _ | dropIndex _ _ =>
      simp [statementEq] at isDefined

theorem mayDeclare_of_isDefinedBy (isDefined : catalog.IsDefinedBy ddl name) :
    Parser.MayDeclare ddl.statement := by
  unfold IsDefinedBy at isDefined
  cases statementEq : ddl.statement <;> simp_all [Parser.MayDeclare]

/-- The changes around the one that adds an index that a statement lists. -/
theorem exists_eq_append_of_getElem? {specs : List AlterSpec} {position : Nat} {index : IndexDef}
    (found : (specs.filterMap AlterSpec.index?)[position]? = some index) :
    ∃ earlier later, specs = earlier ++ .addIndex index :: later ∧
      (earlier.filterMap AlterSpec.index?).length = position := by
  induction specs generalizing position with
  | nil => simp at found
  | cons spec rest ih =>
      cases indexEq : spec.index? with
      | none =>
          rw [List.filterMap_cons_none indexEq] at found
          rcases ih found with ⟨earlier, later, restEq, lengthEq⟩
          refine ⟨spec :: earlier, later, by rw [restEq, List.cons_append], ?_⟩
          rw [List.filterMap_cons_none indexEq, lengthEq]
      | some first =>
          rw [List.filterMap_cons_some indexEq] at found
          cases position with
          | zero =>
              have specEq : spec = .addIndex index := by
                cases spec <;> simp_all [AlterSpec.index?]
              exact ⟨[], rest, by rw [specEq, List.nil_append], rfl⟩
          | succ position =>
              rcases ih found with ⟨earlier, later, restEq, lengthEq⟩
              refine ⟨spec :: earlier, later, by rw [restEq, List.cons_append], ?_⟩
              rw [List.filterMap_cons_some indexEq, List.length_cons, lengthEq]

/-- After any statements, one that is accepted adds an index for each that it declares, in their
order, over the columns among its parts in their order, and so over all its parts exactly if none is
an expression; for an index of nothing but expressions it adds none. The table lists what is added,
if no later change of the same statement drops or renames it or a column of it. -/
theorem lists_declared_indexes (texts : List String) (text : String) (ddl : Ddl)
    (name : QualifiedName) (parsed : Ddl.parse text = .ok ddl)
    (isDefined : (empty.executeEach texts).IsDefinedBy ddl name)
    (isAccepted : ((empty.executeEach texts).execute text).2 = .ok ()) :
    ∃ before after, (empty.executeEach texts).start? ddl = some before ∧
      ((empty.executeEach texts).execute text).1.table? name = some after ∧
      (Ddl.declaredIndexes text).length = ddl.statement.indexes.length ∧
      ∀ position declaration, (Ddl.declaredIndexes text)[position]? = some declaration →
        ∃ earlier index later middle next,
          ddl.statement.changes = earlier ++ .addIndex index :: later ∧
          (earlier.filterMap AlterSpec.index?).length = position ∧
          before.alterAll earlier = .ok middle ∧ middle.addIndex index = .ok next ∧
          next.alterAll later = .ok after ∧
          (declaration.parts.reduceOption = [] → next = middle) ∧
          (declaration.parts.reduceOption ≠ [] → ∃ listed,
            next.indexes = middle.indexes ++ [listed] ∧ declaration.IsListedAs listed ∧
              (declaration.IsWhole listed ↔ none ∉ declaration.parts) ∧
              ((∀ spec ∈ later, SparesIndex listed spec) → after.Lists listed)) := by
  have executed : (empty.executeEach texts).execute text =
      (empty.executeEach texts).apply ddl text := by
    simp [execute, parsed]
  rw [executed] at isAccepted
  rcases alterAll_of_apply isDefined isAccepted with ⟨before, after, startEq, altered, afterEq⟩
  rw [← executed] at afterEq
  have wellFormed : after.IsWellFormed := by
    have found : (empty.executeEach (texts ++ [text])).table? name = some after := by
      rwa [executeEach, List.foldl_append]
    exact isWellFormed_executeEach found
  have isRead := Ddl.declares_of_parse parsed (mayDeclare_of_isDefinedBy isDefined)
  refine ⟨before, after, startEq, afterEq, isRead.length_eq, ?_⟩
  intro position declaration declared
  rcases List.getElem?_eq_some_iff.mp declared with ⟨isDeclared, declaredEq⟩
  have isListed : position < ddl.statement.indexes.length := by rwa [← isRead.length_eq]
  have readAs := isRead.get isDeclared isListed
  rw [List.get_eq_getElem, List.get_eq_getElem, declaredEq] at readAs
  rcases exists_eq_append_of_getElem? (List.getElem?_eq_getElem isListed) with
    ⟨earlier, later, changesEq, positionEq⟩
  rw [changesEq] at altered
  rcases TableDef.alterAll_append_eq_ok altered with ⟨middle, earlierEq, restEq⟩
  rcases TableDef.alterAll_cons_eq_ok_iff.mp restEq with ⟨next, added, laterEq⟩
  have outcome := readAs.exists_added added
  refine ⟨earlier, _, later, middle, next, changesEq, positionEq, earlierEq, added, laterEq,
    outcome.1, fun someColumn => ?_⟩
  rcases outcome.2 someColumn with ⟨listed, nextEq, notEmpty, isListed⟩
  refine ⟨listed, nextEq, isListed, isListed.isWhole_iff, fun spare => wellFormed.lists ?_⟩
  apply TableDef.mem_alterAll spare notEmpty _ laterEq
  simp [nextEq]

/-- Two keys that are added after one is dropped: one over a column and the start of another, and
the primary key. A column of none of them is dropped. -/
theorem lists_declared_indexes_of_two_keys :
    let texts := ["create table s.t (a int, b varchar(9), c int, unique key old (b))"]
    let text := "alter table s.t drop key old, add unique (b (3) desc, A), add primary key (a), " ++
      "drop column c"
    Ddl.declaredIndexes text =
        [⟨false, true, [some "b", some "A"]⟩, ⟨true, true, [some "a"]⟩] ∧
      ∃ after, ((empty.executeEach texts).execute text).1.table? ⟨"s", "t"⟩ = some after ∧
        ∀ declaration ∈ Ddl.declaredIndexes text, ∃ listed,
          declaration.IsWhole listed ∧ after.Lists listed := by
  intro texts text
  have declared : Ddl.declaredIndexes text =
      [⟨false, true, [some "b", some "A"]⟩, ⟨true, true, [some "a"]⟩] := by
    decide +kernel
  let added : List AlterSpec :=
    [.addIndex ⟨none, false, true, ["b", "A"]⟩, .addIndex ⟨none, true, true, ["a"]⟩]
  let changes := .dropIndex "old" :: added ++ [.dropColumn "c"]
  have parsed : Ddl.parse text = .ok ⟨none, .alterTable ⟨some "s", "t"⟩ changes⟩ := by
    decide +kernel
  have isDefined : (empty.executeEach texts).IsDefinedBy
      ⟨none, .alterTable ⟨some "s", "t"⟩ changes⟩ ⟨"s", "t"⟩ :=
    ⟨⟨"s", "t"⟩, rfl, rfl⟩
  rcases lists_declared_indexes texts text _ _ parsed isDefined (by decide +kernel) with
    ⟨_, after, -, afterEq, -, each⟩
  refine ⟨declared, after, afterEq, fun declaration declarationMem => ?_⟩
  rcases List.getElem?_of_mem declarationMem with ⟨position, positionEq⟩
  rcases each position declaration positionEq with
    ⟨earlier, index, later, _, _, changesEq, -, -, -, -, -, lists⟩
  have plain : declaration.parts.reduceOption ≠ [] ∧ none ∉ declaration.parts ∧
      ∀ name ∈ declaration.parts.reduceOption, sameIgnoringCase name "c" = false := by
    rw [declared] at declarationMem
    simp only [List.mem_cons, List.not_mem_nil, or_false] at declarationMem
    rcases declarationMem with rfl | rfl <;> decide
  rcases lists plain.1 with ⟨listed, -, isListed, isWhole, spared⟩
  refine ⟨listed, isWhole.mpr plain.2.1, spared fun spec specMem => ?_⟩
  -- The first change adds no index, so it is none of the later ones.
  have laterMem : spec ∈ added ++ [.dropColumn "c"] := by
    cases earlier with
    | nil => cases changesEq
    | cons first others =>
        have restEq : added ++ [.dropColumn "c"] = others ++ .addIndex index :: later :=
          (List.cons.inj changesEq).2
        simp [restEq, specMem]
  simp only [added, List.cons_append, List.nil_append, List.mem_cons, List.not_mem_nil,
    or_false] at laterMem
  rcases laterMem with rfl | rfl | rfl
  · trivial
  · trivial
  · intro column columnMem
    rcases exists_mem_of_forall₂ isListed.columns columnMem with ⟨name, nameMem, same⟩
    rw [sameIgnoringCase_congr same]
    exact plain.2.2 name nameMem

/-- A unique key over a column and an expression is listed as one over the column alone. -/
theorem exists_key_without_expression :
    let text := "create table s.t (a int, b int, unique key k (a, (b + 1)))"
    Ddl.declaredIndexes text = [⟨false, true, [some "a", none]⟩] ∧
      (empty.execute text).2 = .ok () ∧
      (empty.execute text).1.tableInfo ⟨"s", "t"⟩ = .ok ⟨["a", "b"], none, [⟨"k", ["a"]⟩]⟩ := by
  decide +kernel

end Catalog

end RowLog
