import RowLog.Proofs.RefusedStatements

/-!
# What statements make of definitions

A statement makes a definition by the changes that it lists, one after another, from the empty
definition or from the one that the table has; apart from that it only moves and removes
definitions. So what holds of the empty definition and is kept by every change holds of every table
after any sequence of statements, whether they are accepted or refused. Main statement:
`Catalog.every_executeEach`.
-/

namespace RowLog

open Schema

/-- The changes of a definition that a statement lists. -/
def Schema.Statement.changes : Statement → List AlterSpec
  | .createTable _ _ columns indexes => .addColumns columns .last :: indexes.map .addIndex
  | .createIndex _ index => [.addIndex index]
  | .dropIndex _ name => [.dropIndex name]
  | .alterTable _ specs => specs
  | _ => []

namespace TableDef

variable {definition next : TableDef}

/-- The definition after some changes, none of which may be refused. -/
def alterAll (definition : TableDef) (specs : List AlterSpec) : Except DefinitionError TableDef :=
  specs.foldlM alter definition

@[simp]
theorem alterAll_nil (definition : TableDef) : definition.alterAll [] = .ok definition := rfl

theorem alterAll_cons_eq_ok_iff {spec : AlterSpec} {rest : List AlterSpec} :
    definition.alterAll (spec :: rest) = .ok next ↔
      ∃ middle, definition.alter spec = .ok middle ∧ middle.alterAll rest = .ok next := by
  rw [alterAll, List.foldlM_cons, bind_eq_ok_iff]
  rfl

theorem alterAll_singleton (definition : TableDef) (spec : AlterSpec) :
    definition.alterAll [spec] = definition.alter spec := by
  rw [alterAll, List.foldlM_cons]
  cases definition.alter spec <;> rfl

/-- A table is created by changes of the empty definition. -/
theorem ofElements_eq (columns : List ColumnDef) (indexes : List IndexDef) :
    ofElements columns indexes =
      empty.alterAll (.addColumns columns .last :: indexes.map .addIndex) := by
  simp only [alterAll, List.foldlM_cons, List.foldlM_map]
  rfl

/-- What every allowed change keeps, some allowed changes in a row keep. -/
theorem holds_alterAll {holds : TableDef → Prop} {allowed : AlterSpec → Prop}
    (kept : ∀ definition spec next, allowed spec → holds definition →
      definition.alter spec = .ok next → holds next)
    {specs : List AlterSpec} (areAllowed : ∀ spec ∈ specs, allowed spec)
    (before : holds definition) (altered : definition.alterAll specs = .ok next) : holds next := by
  induction specs generalizing definition with
  | nil =>
      rw [alterAll_nil, Except.ok.injEq] at altered
      rwa [← altered]
  | cons spec rest ih =>
      rcases alterAll_cons_eq_ok_iff.mp altered with ⟨middle, step, later⟩
      have middleHolds := kept definition spec middle (areAllowed spec (by simp)) before step
      exact ih (fun change changeMem => areAllowed change (by simp [changeMem])) middleHolds later

end TableDef

namespace Catalog

variable {catalog next : Catalog} {ddl : Ddl} {text : String}

theorem accepted_eq_ok_iff {result : Except DefinitionError TableDef} {definition : TableDef} :
    accepted text result = .ok definition ↔ result = .ok definition := by
  cases result <;> simp [accepted, Except.mapError]

theorem lookup_eq_ok_iff {name : QualifiedName} {definition : TableDef} :
    catalog.lookup name = .ok definition ↔ catalog.table? name = some definition := by
  unfold lookup
  cases catalog.table? name <;> simp

@[simp]
theorem table?_redefine_self (catalog : Catalog) (name : QualifiedName) (definition : TableDef) :
    (catalog.redefine name definition).table? name = some definition := by
  simp [table?, held?, redefine]

@[simp]
theorem table?_setTable_self (catalog : Catalog) (name : QualifiedName) (definition : TableDef) :
    (catalog.setTable name definition).table? name = some definition :=
  table?_redefine_self _ name definition

@[simp]
theorem table?_moveTable_self (catalog : Catalog) (source target : QualifiedName)
    (definition : TableDef) :
    (catalog.moveTable source target definition).table? target = some definition := by
  unfold moveTable
  split <;> exact table?_setTable_self _ target definition

/-- The name of a table after changes of it, which is the last new name that they give it. -/
def LeadsTo (ddl : Ddl) (source target : QualifiedName) (refs : List TableRef) : Prop :=
  match refs.getLast? with
  | some ref => ddl.resolve ref = .ok target
  | none => target = source

theorem alterAll_of_foldlM_alterStep {specs : List AlterSpec}
    {before after : QualifiedName × TableDef}
    (altered : specs.foldlM (alterStep ddl text) before = .ok after) :
    before.2.alterAll specs = .ok after.2 ∧
      LeadsTo ddl before.1 after.1 (specs.filterMap AlterSpec.newName?) := by
  induction specs generalizing before with
  | nil =>
      simp only [List.foldlM_nil, pure, Except.pure, Except.ok.injEq] at altered
      subst altered
      exact ⟨rfl, rfl⟩
  | cons spec rest ih =>
      rw [List.foldlM_cons, bind_eq_ok_iff] at altered
      rcases altered with ⟨middle, stepEq, restEq⟩
      rcases ih restEq with ⟨restAltered, leads⟩
      rw [TableDef.alterAll_cons_eq_ok_iff]
      cases newName : spec.newName? with
      | none =>
          simp only [alterStep, newName] at stepEq
          rcases map_eq_ok_iff.mp stepEq with ⟨definition, altered, rfl⟩
          rw [List.filterMap_cons_none newName]
          exact ⟨⟨definition, accepted_eq_ok_iff.mp altered, restAltered⟩, leads⟩
      | some ref =>
          -- To be renamed does not change the definition.
          have sameDefinition : before.2.alter spec = .ok before.2 := by
            cases spec <;> simp_all [AlterSpec.newName?, TableDef.alter]
          simp only [alterStep, newName] at stepEq
          rcases map_eq_ok_iff.mp stepEq with ⟨name, resolved, rfl⟩
          refine ⟨⟨before.2, sameDefinition, restAltered⟩, ?_⟩
          rw [List.filterMap_cons_some newName]
          unfold LeadsTo at leads ⊢
          rw [List.getLast?_cons]
          cases last : (rest.filterMap AlterSpec.newName?).getLast? with
          | none =>
              simp only [last] at leads
              simpa [leads] using resolved
          | some later => simpa [last] using leads

section Single

variable {table : TableRef} {name : QualifiedName} {definition : TableDef}

theorem settle_map_eq_ok {result : Except DefinitionError TableDef} {place : TableDef → Catalog}
    {changed : TableDef} (resultEq : result = .ok changed) :
    catalog.settle ((accepted text result).map place) = (place changed, .ok ()) := by
  rw [resultEq]
  rfl

theorem settle_map_eq_error {result : Except DefinitionError TableDef} {place : TableDef → Catalog}
    {cause : DefinitionError} (resultEq : result = .error cause) :
    catalog.settle ((accepted text result).map place) =
      (catalog, .error (.invalid text (.refused cause))) := by
  rw [resultEq]
  rfl

/-- A statement that makes a single change of a table, which is not to rename it. -/
theorem execute_alterTable {spec : AlterSpec} (parsed : Ddl.parse text = .ok ddl)
    (statementEq : ddl.statement = .alterTable table [spec]) (sameName : spec.newName? = none)
    (resolved : ddl.resolve table = .ok name) (found : catalog.table? name = some definition) :
    catalog.execute text =
      catalog.settle ((accepted text (definition.alter spec)).map (catalog.setTable name)) := by
  have looked : catalog.lookup name = .ok definition := lookup_eq_ok_iff.mpr found
  simp only [execute, parsed, apply, statementEq, resolved, alterTable, looked, alterStep, sameName,
    List.foldlM_cons, List.foldlM_nil, moveTable, bind, Except.bind, pure, Except.pure]
  cases definition.alter spec <;> simp [accepted, Except.mapError, Except.map]

theorem execute_createIndex {index : IndexDef} (parsed : Ddl.parse text = .ok ddl)
    (statementEq : ddl.statement = .createIndex table index)
    (resolved : ddl.resolve table = .ok name) (found : catalog.table? name = some definition) :
    catalog.execute text =
      catalog.settle ((accepted text (definition.addIndex index)).map (catalog.redefine name)) := by
  have looked : catalog.lookup name = .ok definition := lookup_eq_ok_iff.mpr found
  simp only [execute, parsed, apply, statementEq, resolved, changeIndexes, looked, bind,
    Except.bind, pure, Except.pure]
  cases definition.addIndex index <;> simp [accepted, Except.mapError, Except.map]

end Single

/-- Whether the definitions of all tables have a property. -/
def Every (holds : TableDef → Prop) (catalog : Catalog) : Prop :=
  ∀ name definition, catalog.table? name = some definition → holds definition

namespace Every

variable {holds : TableDef → Prop}

theorem empty : Catalog.empty.Every holds := by
  intro name definition found
  simp [table?, held?, Catalog.empty] at found

theorem eraseTable (every : catalog.Every holds) (name : QualifiedName) :
    (catalog.eraseTable name).Every holds := by
  intro other definition found
  by_cases same : name = other
  · subst same
    simp at found
  · rw [table?_eraseTable_of_ne same] at found
    exact every other definition found

theorem redefine (every : catalog.Every holds) (name : QualifiedName) {definition : TableDef}
    (new : holds definition) : (catalog.redefine name definition).Every holds := by
  intro other found foundEq
  by_cases same : name = other
  · subst same
    rw [table?_redefine_self, Option.some.injEq] at foundEq
    rwa [← foundEq]
  · rw [table?_redefine_of_ne same] at foundEq
    exact every other found foundEq

theorem addDatabase (every : catalog.Every holds) (database : String) :
    (catalog.addDatabase database).Every holds :=
  every

theorem setTable (every : catalog.Every holds) (name : QualifiedName) {definition : TableDef}
    (new : holds definition) : (catalog.setTable name definition).Every holds :=
  (every.addDatabase name.schema).redefine name new

theorem moveTable (every : catalog.Every holds) (source target : QualifiedName)
    {definition : TableDef} (new : holds definition) :
    (catalog.moveTable source target definition).Every holds := by
  unfold Catalog.moveTable
  split
  · exact every.setTable target new
  · exact (every.eraseTable source).setTable target new

theorem settle (every : catalog.Every holds) {result : Except CatalogError Catalog}
    (settled : ∀ next, result = .ok next → next.Every holds) :
    (catalog.settle result).1.Every holds := by
  cases result with
  | error cause => exact every
  | ok next => exact settled next rfl

theorem createTable (every : catalog.Every holds) {name : QualifiedName} {ifNotExists : Bool}
    {definition : Unit → Except CatalogError TableDef}
    (new : ∀ created, definition () = .ok created → holds created)
    (created : catalog.createTable name ifNotExists definition = .ok next) : next.Every holds := by
  unfold Catalog.createTable at created
  split at created
  · rwa [← Except.ok.inj created]
  · rcases map_eq_ok_iff.mp created with ⟨made, madeEq, rfl⟩
    exact every.setTable name (new made madeEq)

theorem changeIndexes (every : catalog.Every holds) {name : QualifiedName}
    {change : TableDef → Except DefinitionError TableDef}
    (kept : ∀ before after, holds before → change before = .ok after → holds after)
    (changed : catalog.changeIndexes text name change = .ok next) : next.Every holds := by
  rw [Catalog.changeIndexes, bind_eq_ok_iff] at changed
  rcases changed with ⟨before, found, changed⟩
  rcases bind_eq_ok_iff.mp changed with ⟨after, afterEq, rest⟩
  rw [← Except.ok.inj rest]
  have beforeHolds := every name before (lookup_eq_ok_iff.mp found)
  exact every.redefine name (kept before after beforeHolds (accepted_eq_ok_iff.mp afterEq))

theorem alterTable (every : catalog.Every holds) {source : QualifiedName} {specs : List AlterSpec}
    (kept : ∀ before after, holds before → before.alterAll specs = .ok after → holds after)
    (altered : catalog.alterTable ddl text source specs = .ok next) : next.Every holds := by
  rw [Catalog.alterTable, bind_eq_ok_iff] at altered
  rcases altered with ⟨before, found, altered⟩
  rcases bind_eq_ok_iff.mp altered with ⟨⟨target, after⟩, steps, rest⟩
  rw [← Except.ok.inj rest]
  have beforeHolds := every source before (lookup_eq_ok_iff.mp found)
  exact every.moveTable source target
    (kept before after beforeHolds (alterAll_of_foldlM_alterStep steps).1)

theorem dropTables (every : catalog.Every holds) (ddl : Ddl) (ifExists : Bool)
    (tables : List TableRef) : (Catalog.dropTables ddl ifExists catalog tables).1.Every holds := by
  induction tables generalizing catalog with
  | nil => exact every
  | cons table rest ih =>
      rw [Catalog.dropTables]
      split
      · exact every
      · split
        · exact every
        · exact ih (every.eraseTable _)

theorem renameTables (every : catalog.Every holds) (ddl : Ddl)
    (pairs : List (TableRef × TableRef)) :
    (Catalog.renameTables ddl catalog pairs).1.Every holds := by
  induction pairs generalizing catalog with
  | nil => exact every
  | cons pair rest ih =>
      rcases pair with ⟨source, target⟩
      rw [Catalog.renameTables]
      split
      · exact every
      · split
        · exact every
        · next entry found =>
            have moved := every _ entry.definition (table?_of_held? found)
            dsimp only
            split
            · exact every.eraseTable _
            · rw [setEntry_eq_setTable]
              exact ih ((every.eraseTable _).setTable _ moved)

/-- A statement keeps what the changes that it lists keep. -/
theorem apply {allowed : AlterSpec → Prop} (every : catalog.Every holds) (start : holds .empty)
    (kept : ∀ definition spec next, allowed spec → holds definition →
      definition.alter spec = .ok next → holds next)
    (areAllowed : ∀ spec ∈ ddl.statement.changes, allowed spec) (text : String) :
    (catalog.apply ddl text).1.Every holds := by
  have whole {table : TableRef} {effect : QualifiedName → Except CatalogError Catalog}
      (keeps : ∀ name next, effect name = .ok next → next.Every holds) :
      (catalog.settle (ddl.resolve table >>= effect)).1.Every holds := by
    apply every.settle
    intro next nextEq
    rcases bind_eq_ok_iff.mp nextEq with ⟨name, -, effectEq⟩
    exact keeps name next effectEq
  unfold Catalog.apply
  cases statementEq : ddl.statement with
  | createDatabase database ifNotExists =>
      apply every.settle
      intro next nextEq
      unfold createDatabase at nextEq
      split at nextEq
      · contradiction
      · rw [← Except.ok.inj nextEq]
        exact every
  | alterDatabase database => exact every
  | dropDatabase database ifExists =>
      apply every.settle
      intro next nextEq
      unfold dropDatabase at nextEq
      split at nextEq
      · contradiction
      · rw [← Except.ok.inj nextEq]
        exact every
  | createTable table ifNotExists columns indexes =>
      rw [statementEq] at areAllowed
      apply whole
      intro name next created
      refine every.createTable (fun made madeEq => ?_) created
      have altered := accepted_eq_ok_iff.mp madeEq
      rw [TableDef.ofElements_eq] at altered
      exact TableDef.holds_alterAll kept areAllowed start altered
  | createTableLike table ifNotExists source =>
      apply whole
      intro name next created
      refine every.createTable (fun made madeEq => ?_) created
      rcases bind_eq_ok_iff.mp madeEq with ⟨sourceName, -, found⟩
      exact every sourceName made (lookup_eq_ok_iff.mp found)
  | dropTable tables ifExists => exact every.dropTables ddl ifExists tables
  | truncateTable table => exact every
  | renameTable pairs => exact every.renameTables ddl pairs
  | createIndex table index =>
      rw [statementEq] at areAllowed
      apply whole
      intro name next changed
      exact every.changeIndexes
        (fun before after => kept before (.addIndex index) after (areAllowed _ (by
          simp [Statement.changes]))) changed
  | dropIndex table index =>
      rw [statementEq] at areAllowed
      apply whole
      intro name next changed
      exact every.changeIndexes
        (fun before after => kept before (.dropIndex index) after (areAllowed _ (by
          simp [Statement.changes]))) changed
  | alterTable table specs =>
      rw [statementEq] at areAllowed
      apply whole
      intro name next altered
      exact every.alterTable
        (fun before after => TableDef.holds_alterAll kept areAllowed) altered

theorem execute {allowed : AlterSpec → Prop} (every : catalog.Every holds) (start : holds .empty)
    (kept : ∀ definition spec next, allowed spec → holds definition →
      definition.alter spec = .ok next → holds next)
    (areAllowed : ∀ ddl, Ddl.parse text = .ok ddl → ∀ spec ∈ ddl.statement.changes, allowed spec) :
    (catalog.execute text).1.Every holds := by
  unfold Catalog.execute
  cases parsed : Ddl.parse text with
  | error cause => exact every
  | ok ddl => exact every.apply start kept (areAllowed ddl parsed) text

end Every

/-- The catalog after schema changes, with what a refused one has done before it was refused. -/
def executeEach (catalog : Catalog) (texts : List String) : Catalog :=
  texts.foldl (fun catalog text => (catalog.execute text).1) catalog

/-- What holds of the empty definition and is kept by every change that the statements list holds
of every table after them. -/
theorem every_executeEach {holds : TableDef → Prop} {allowed : AlterSpec → Prop}
    (start : holds .empty)
    (kept : ∀ definition spec next, allowed spec → holds definition →
      definition.alter spec = .ok next → holds next)
    {texts : List String}
    (areAllowed : ∀ text ∈ texts, ∀ ddl, Ddl.parse text = .ok ddl →
      ∀ spec ∈ ddl.statement.changes, allowed spec)
    (every : catalog.Every holds) : (catalog.executeEach texts).Every holds := by
  induction texts generalizing catalog with
  | nil => exact every
  | cons text rest ih =>
      have step := every.execute start kept (areAllowed text (by simp))
      exact ih (fun other otherMem => areAllowed other (by simp [otherMem])) step

end Catalog

end RowLog
