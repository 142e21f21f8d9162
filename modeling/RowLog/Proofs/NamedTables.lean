import RowLog.Catalog.Basic
import RowLog.Proofs.Lists

/-!
# The tables that a statement names

`Ddl.tables` lists the tables whose structure a statement may change. Here it is shown to be
complete: whether a statement is accepted or refused, and however much of it was done before it was
refused, the definition of every other table stays as it was. A statement that is accepted has
names for all of its tables. Main statement: `Catalog.tableInfo_execute_of_notMem`.
-/

namespace RowLog

open Schema

/-- The tables that the statement of a text names. -/
def Schema.namedTables (text : String) : Except CatalogError (List QualifiedName) :=
  Ddl.parse text >>= Ddl.tables

namespace Catalog

variable {catalog next : Catalog} {ddl : Ddl} {text : String} {names : List QualifiedName}

section Lookups

variable {name other : QualifiedName} {definition : TableDef} {entry : TableEntry}

theorem table?_of_held? (found : catalog.held? name = some entry) :
    catalog.table? name = some entry.definition := by
  rw [table?, found, Option.map_some]

theorem table?_eq_none_iff : catalog.table? name = none ↔ catalog.held? name = none := by
  rw [table?, Option.map_eq_none_iff]

/-- What is known of a table is what its definition says. -/
theorem map_info_held? (catalog : Catalog) (name : QualifiedName) :
    (catalog.held? name).map TableEntry.info = (catalog.table? name).map TableDef.info := by
  rw [table?, Option.map_map]
  congr 1
  funext entry
  exact entry.info_eq

@[simp]
theorem table?_addDatabase (catalog : Catalog) (database : String) :
    (catalog.addDatabase database).table? name = catalog.table? name := rfl

@[simp]
theorem table?_eraseDatabase (catalog : Catalog) (database : String) :
    (catalog.eraseDatabase database).table? name = catalog.table? name := rfl

theorem table?_redefine_of_ne (differs : other ≠ name) :
    (catalog.redefine other definition).table? name = catalog.table? name := by
  simp only [table?, held?, redefine, Std.ExtTreeMap.getElem?_insert,
    Std.LawfulEqCmp.compare_eq_iff_eq]
  simp [differs]

theorem table?_setTable_of_ne (differs : other ≠ name) :
    (catalog.setTable other definition).table? name = catalog.table? name :=
  table?_redefine_of_ne differs

theorem table?_eraseTable_of_ne (differs : other ≠ name) :
    (catalog.eraseTable other).table? name = catalog.table? name := by
  simp only [table?, held?, eraseTable, Std.ExtTreeMap.getElem?_erase,
    Std.LawfulEqCmp.compare_eq_iff_eq]
  simp [differs]

theorem tableInfo_congr (same : next.table? name = catalog.table? name) :
    next.tableInfo name = catalog.tableInfo name := by
  simp only [tableInfo, map_info_held?, same]

end Lookups

/-- Whether two catalogs have the same definitions of all tables but some. -/
def AgreesOutside (names : List QualifiedName) (first second : Catalog) : Prop :=
  ∀ name, name ∉ names → second.table? name = first.table? name

namespace AgreesOutside

theorem refl (names : List QualifiedName) (catalog : Catalog) :
    AgreesOutside names catalog catalog :=
  fun _ _ => rfl

theorem trans {middle : Catalog} (first : AgreesOutside names catalog middle)
    (second : AgreesOutside names middle next) : AgreesOutside names catalog next :=
  fun name other => (second name other).trans (first name other)

variable {name : QualifiedName}

theorem ne_of_notMem {other : QualifiedName} (named : name ∈ names) (notNamed : other ∉ names) :
    name ≠ other := by
  rintro rfl
  exact notNamed named

theorem eraseTable (named : name ∈ names) (catalog : Catalog) :
    AgreesOutside names catalog (catalog.eraseTable name) :=
  fun _ other => table?_eraseTable_of_ne (ne_of_notMem named other)

theorem redefine (named : name ∈ names) (catalog : Catalog) (definition : TableDef) :
    AgreesOutside names catalog (catalog.redefine name definition) :=
  fun _ other => table?_redefine_of_ne (ne_of_notMem named other)

theorem setTable (named : name ∈ names) (catalog : Catalog) (definition : TableDef) :
    AgreesOutside names catalog (catalog.setTable name definition) :=
  fun _ other => table?_setTable_of_ne (ne_of_notMem named other)

theorem setEntry (named : name ∈ names) (catalog : Catalog) (entry : TableEntry) :
    AgreesOutside names catalog (catalog.setEntry name entry) := by
  rw [setEntry_eq_setTable]
  exact setTable named catalog entry.definition

/-- A change that has its effect as a whole or not at all leaves the tables alone that its effect
leaves alone. -/
theorem settle {result : Except CatalogError Catalog}
    (agrees : ∀ next, result = .ok next → AgreesOutside names catalog next) :
    AgreesOutside names catalog (catalog.settle result).1 := by
  cases result with
  | error cause => exact refl names catalog
  | ok next => exact agrees next rfl

end AgreesOutside

/-- Whether some references to tables are all resolved, to tables among the given ones. -/
def Resolves (ddl : Ddl) (names : List QualifiedName) (refs : List TableRef) : Prop :=
  ∀ ref ∈ refs, ∃ name ∈ names, ddl.resolve ref = .ok name

theorem Resolves.mem {refs : List TableRef} (resolves : Resolves ddl names refs) {ref : TableRef}
    (refMem : ref ∈ refs) {name : QualifiedName} (nameEq : ddl.resolve ref = .ok name) :
    name ∈ names := by
  rcases resolves ref refMem with ⟨resolved, resolvedMem, resolvedEq⟩
  rw [nameEq, Except.ok.injEq] at resolvedEq
  rwa [resolvedEq]

theorem tables_eq_ok_iff :
    ddl.tables = .ok names ↔ ∃ resolved,
      (Ddl.tableRefs ddl.statement).mapM ddl.resolve = .ok resolved ∧
        resolved.eraseDups = names := by
  simp [Ddl.tables, bind_eq_ok_iff, pure, Except.pure]

theorem resolves_of_tables (named : ddl.tables = .ok names) :
    Resolves ddl names (Ddl.tableRefs ddl.statement) := by
  rcases tables_eq_ok_iff.mp named with ⟨resolved, resolvedEq, namesEq⟩
  intro ref refMem
  rcases exists_mem_of_mapM_eq_ok resolvedEq refMem with ⟨name, nameMem, nameEq⟩
  exact ⟨name, by simpa [← namesEq, List.mem_eraseDups] using nameMem, nameEq⟩

theorem exists_ref_of_tables (named : ddl.tables = .ok names) {name : QualifiedName}
    (nameMem : name ∈ names) :
    ∃ ref ∈ Ddl.tableRefs ddl.statement, ddl.resolve ref = .ok name := by
  rcases tables_eq_ok_iff.mp named with ⟨resolved, resolvedEq, namesEq⟩
  rw [← namesEq, List.mem_eraseDups] at nameMem
  exact exists_mem_of_forall₂ (mapM_eq_ok_iff.mp resolvedEq) nameMem

theorem exists_tables_of_forall
    (each : ∀ ref ∈ Ddl.tableRefs ddl.statement, ∃ name, ddl.resolve ref = .ok name) :
    ∃ names, ddl.tables = .ok names := by
  rcases exists_mapM_eq_ok each with ⟨resolved, resolvedEq⟩
  exact ⟨resolved.eraseDups, by rw [Ddl.tables, resolvedEq]; rfl⟩

theorem agreesOutside_dropTables {ifExists : Bool} {tables : List TableRef}
    (resolves : Resolves ddl names tables) (catalog : Catalog) :
    AgreesOutside names catalog (dropTables ddl ifExists catalog tables).1 := by
  induction tables generalizing catalog with
  | nil => exact .refl names catalog
  | cons table rest ih =>
      rcases resolves table (by simp) with ⟨name, nameMem, nameEq⟩
      have later : Resolves ddl names rest :=
        fun ref refMem => resolves ref (by simp [refMem])
      rw [dropTables, nameEq]
      dsimp only
      split
      · exact .refl names catalog
      · exact (AgreesOutside.eraseTable nameMem catalog).trans (ih later _)

theorem agreesOutside_renameTables {pairs : List (TableRef × TableRef)}
    (resolves : Resolves ddl names (pairs.flatMap fun pair => [pair.1, pair.2]))
    (catalog : Catalog) :
    AgreesOutside names catalog (renameTables ddl catalog pairs).1 := by
  induction pairs generalizing catalog with
  | nil => exact .refl names catalog
  | cons pair rest ih =>
      rcases pair with ⟨source, target⟩
      rcases resolves source (by simp) with ⟨sourceName, sourceMem, sourceEq⟩
      rcases resolves target (by simp) with ⟨targetName, targetMem, targetEq⟩
      have later : Resolves ddl names (rest.flatMap fun pair => [pair.1, pair.2]) :=
        fun ref refMem => resolves ref (by simp [refMem])
      rw [renameTables, sourceEq]
      dsimp only
      cases catalog.held? sourceName with
      | none => exact .refl names catalog
      | some entry =>
          have erased := AgreesOutside.eraseTable sourceMem catalog
          have moved := AgreesOutside.setEntry targetMem (catalog.eraseTable sourceName) entry
          rw [targetEq]
          exact (erased.trans moved).trans (ih later _)

theorem agreesOutside_createTable {name : QualifiedName} {ifNotExists : Bool}
    {definition : Unit → Except CatalogError TableDef} (named : name ∈ names)
    (created : catalog.createTable name ifNotExists definition = .ok next) :
    AgreesOutside names catalog next := by
  unfold createTable at created
  split at created
  · rw [Except.ok.injEq] at created
    subst created
    exact .refl names catalog
  · rcases map_eq_ok_iff.mp created with ⟨definition, _, rfl⟩
    exact .setTable named catalog definition

theorem agreesOutside_changeIndexes {name : QualifiedName}
    {change : TableDef → Except DefinitionError TableDef} (named : name ∈ names)
    (changed : catalog.changeIndexes text name change = .ok next) :
    AgreesOutside names catalog next := by
  rw [changeIndexes, bind_eq_ok_iff] at changed
  rcases changed with ⟨definition, _, changed⟩
  rw [bind_eq_ok_iff] at changed
  rcases changed with ⟨definition, _, changed⟩
  simp only [pure, Except.pure, Except.ok.injEq] at changed
  subst changed
  exact .redefine named catalog definition

/-- Wherever a table is renamed to in the course of a statement, it is a name that the statement
names. -/
theorem foldlM_alterStep_mem {specs : List AlterSpec}
    (resolves : Resolves ddl names (specs.filterMap AlterSpec.newName?))
    {before after : QualifiedName × TableDef} (named : before.1 ∈ names)
    (altered : specs.foldlM (alterStep ddl text) before = .ok after) : after.1 ∈ names := by
  induction specs generalizing before with
  | nil =>
      simp only [List.foldlM_nil, pure, Except.pure, Except.ok.injEq] at altered
      rwa [← altered]
  | cons spec rest ih =>
      rw [List.foldlM_cons, bind_eq_ok_iff] at altered
      rcases altered with ⟨middle, stepEq, restEq⟩
      cases newName : spec.newName? with
      | none =>
          have later : Resolves ddl names (rest.filterMap AlterSpec.newName?) := by
            simpa [List.filterMap_cons, newName] using resolves
          apply ih later _ restEq
          simp only [alterStep, newName] at stepEq
          rcases map_eq_ok_iff.mp stepEq with ⟨definition, _, rfl⟩
          exact named
      | some target =>
          rcases resolves target (by simp [newName]) with
            ⟨name, nameMem, nameEq⟩
          have later : Resolves ddl names (rest.filterMap AlterSpec.newName?) :=
            fun ref refMem => resolves ref (by simp [newName, refMem])
          apply ih later _ restEq
          simp only [alterStep, newName, nameEq] at stepEq
          rcases map_eq_ok_iff.mp stepEq with ⟨resolved, resolvedEq, rfl⟩
          rwa [← Except.ok.inj resolvedEq]

theorem agreesOutside_alterTable {source : QualifiedName} {specs : List AlterSpec}
    (named : source ∈ names) (resolves : Resolves ddl names (specs.filterMap AlterSpec.newName?))
    (altered : catalog.alterTable ddl text source specs = .ok next) :
    AgreesOutside names catalog next := by
  rw [alterTable, bind_eq_ok_iff] at altered
  rcases altered with ⟨definition, _, altered⟩
  rw [bind_eq_ok_iff] at altered
  rcases altered with ⟨⟨target, final⟩, steps, altered⟩
  have targetMem : target ∈ names := foldlM_alterStep_mem resolves named steps
  simp only [pure, Except.pure, Except.ok.injEq] at altered
  subst altered
  unfold moveTable
  split
  · exact .setTable targetMem catalog final
  · exact (AgreesOutside.eraseTable named catalog).trans (.setTable targetMem _ final)

/-- A statement leaves the tables alone that it does not name, whether it is accepted or refused. -/
theorem agreesOutside_apply (named : ddl.tables = .ok names) (catalog : Catalog) (text : String) :
    AgreesOutside names catalog (catalog.apply ddl text).1 := by
  have resolves := resolves_of_tables named
  have whole {table : TableRef} (tableMem : table ∈ Ddl.tableRefs ddl.statement)
      {effect : QualifiedName → Except CatalogError Catalog}
      (agrees : ∀ name ∈ names, ∀ next, effect name = .ok next → AgreesOutside names catalog next) :
      AgreesOutside names catalog (catalog.settle (ddl.resolve table >>= effect)).1 := by
    apply AgreesOutside.settle
    intro next nextEq
    rcases bind_eq_ok_iff.mp nextEq with ⟨name, nameEq, effectEq⟩
    exact agrees name (resolves.mem tableMem nameEq) next effectEq
  unfold apply
  cases statementEq : ddl.statement with
  | createDatabase database ifNotExists =>
      apply AgreesOutside.settle
      intro next nextEq
      unfold createDatabase at nextEq
      split at nextEq
      · contradiction
      · rw [← Except.ok.inj nextEq]
        exact .refl names catalog
  | alterDatabase database => exact .refl names catalog
  | dropDatabase database ifExists =>
      apply AgreesOutside.settle
      intro next nextEq
      unfold dropDatabase at nextEq
      split at nextEq
      · contradiction
      · rw [← Except.ok.inj nextEq]
        exact .refl names catalog
  | createTable table ifNotExists columns indexes =>
      apply whole (by simp [statementEq, Ddl.tableRefs])
      intro name nameMem next created
      exact agreesOutside_createTable nameMem created
  | createTableLike table ifNotExists source =>
      apply whole (by simp [statementEq, Ddl.tableRefs])
      intro name nameMem next created
      exact agreesOutside_createTable nameMem created
  | dropTable tables ifExists =>
      rw [statementEq] at resolves
      exact agreesOutside_dropTables resolves catalog
  | truncateTable table => exact .refl names catalog
  | renameTable pairs =>
      rw [statementEq] at resolves
      exact agreesOutside_renameTables resolves catalog
  | createIndex table index =>
      apply whole (by simp [statementEq, Ddl.tableRefs])
      intro name nameMem next changed
      exact agreesOutside_changeIndexes nameMem changed
  | dropIndex table index =>
      apply whole (by simp [statementEq, Ddl.tableRefs])
      intro name nameMem next changed
      exact agreesOutside_changeIndexes nameMem changed
  | alterTable table specs =>
      apply whole (by simp [statementEq, Ddl.tableRefs])
      intro name nameMem next altered
      refine agreesOutside_alterTable nameMem ?_ altered
      intro ref refMem
      exact resolves ref (by simpa [statementEq, Ddl.tableRefs] using Or.inr refMem)

/-- Whether a reference to a table is resolved in a statement. -/
def IsResolved (ddl : Ddl) (ref : TableRef) : Prop :=
  ∃ name, ddl.resolve ref = .ok name

theorem isResolved_of_dropTables {ifExists : Bool} {tables : List TableRef}
    (accepted : (dropTables ddl ifExists catalog tables).2 = .ok ()) :
    ∀ ref ∈ tables, IsResolved ddl ref := by
  induction tables generalizing catalog with
  | nil => simp
  | cons table rest ih =>
      rw [dropTables] at accepted
      cases resolved : ddl.resolve table with
      | error cause => simp [resolved] at accepted
      | ok name =>
          simp only [resolved] at accepted
          split at accepted
          · contradiction
          · intro ref refMem
            rcases List.mem_cons.mp refMem with rfl | laterMem
            · exact ⟨name, resolved⟩
            · exact ih accepted ref laterMem

theorem isResolved_of_renameTables {pairs : List (TableRef × TableRef)}
    (accepted : (renameTables ddl catalog pairs).2 = .ok ()) :
    ∀ pair ∈ pairs, IsResolved ddl pair.1 ∧ IsResolved ddl pair.2 := by
  induction pairs generalizing catalog with
  | nil => simp
  | cons pair rest ih =>
      rcases pair with ⟨source, target⟩
      rw [renameTables] at accepted
      cases sourceEq : ddl.resolve source with
      | error cause => simp [sourceEq] at accepted
      | ok sourceName =>
          cases entryEq : catalog.held? sourceName with
          | none => simp [sourceEq, entryEq] at accepted
          | some entry =>
              cases targetEq : ddl.resolve target with
              | error cause => simp [sourceEq, entryEq, targetEq] at accepted
              | ok targetName =>
                  simp only [sourceEq, entryEq, targetEq] at accepted
                  intro pair pairMem
                  rcases List.mem_cons.mp pairMem with rfl | laterMem
                  · exact ⟨⟨sourceName, sourceEq⟩, ⟨targetName, targetEq⟩⟩
                  · exact ih accepted pair laterMem

theorem isResolved_of_foldlM_alterStep {specs : List AlterSpec}
    {before after : QualifiedName × TableDef}
    (altered : specs.foldlM (alterStep ddl text) before = .ok after) :
    ∀ ref ∈ specs.filterMap AlterSpec.newName?, IsResolved ddl ref := by
  induction specs generalizing before with
  | nil => simp
  | cons spec rest ih =>
      rw [List.foldlM_cons, bind_eq_ok_iff] at altered
      rcases altered with ⟨middle, stepEq, restEq⟩
      intro ref refMem
      cases newName : spec.newName? with
      | none =>
          rw [List.filterMap_cons_none newName] at refMem
          exact ih restEq ref refMem
      | some target =>
          rw [List.filterMap_cons_some newName] at refMem
          rcases List.mem_cons.mp refMem with rfl | laterMem
          · simp only [alterStep, newName] at stepEq
            rcases map_eq_ok_iff.mp stepEq with ⟨name, nameEq, _⟩
            exact ⟨name, nameEq⟩
          · exact ih restEq ref laterMem

/-- A statement that is accepted names tables, each of which is resolved. -/
theorem exists_tables_of_apply (accepted : (catalog.apply ddl text).2 = .ok ()) :
    ∃ names, ddl.tables = .ok names := by
  apply exists_tables_of_forall
  have first {effect : QualifiedName → Except CatalogError Catalog} {table : TableRef}
      (settled : (catalog.settle (ddl.resolve table >>= effect)).2 = .ok ()) :
      ∃ name next, ddl.resolve table = .ok name ∧ effect name = .ok next := by
    cases result : ddl.resolve table >>= effect with
    | error cause => simp [result, settle] at settled
    | ok next =>
        rcases bind_eq_ok_iff.mp result with ⟨name, nameEq, effectEq⟩
        exact ⟨name, next, nameEq, effectEq⟩
  unfold apply at accepted
  cases statementEq : ddl.statement with
  | createDatabase database ifNotExists => simp [Ddl.tableRefs]
  | alterDatabase database => simp [Ddl.tableRefs]
  | dropDatabase database ifExists => simp [Ddl.tableRefs]
  | createTable table ifNotExists columns indexes =>
      rw [statementEq] at accepted
      rcases first accepted with ⟨name, _, nameEq, _⟩
      simpa [Ddl.tableRefs] using ⟨name, nameEq⟩
  | createTableLike table ifNotExists source =>
      rw [statementEq] at accepted
      rcases first accepted with ⟨name, _, nameEq, _⟩
      simpa [Ddl.tableRefs] using ⟨name, nameEq⟩
  | dropTable tables ifExists =>
      rw [statementEq] at accepted
      exact isResolved_of_dropTables accepted
  | truncateTable table =>
      rw [statementEq] at accepted
      rcases bind_eq_ok_iff.mp accepted with ⟨name, nameEq, _⟩
      simpa [Ddl.tableRefs] using ⟨name, nameEq⟩
  | renameTable pairs =>
      rw [statementEq] at accepted
      intro ref refMem
      rcases List.mem_flatMap.mp refMem with ⟨pair, pairMem, refMem⟩
      have resolved := isResolved_of_renameTables accepted pair pairMem
      simp only [List.mem_cons, List.not_mem_nil, or_false] at refMem
      rcases refMem with rfl | rfl
      · exact resolved.1
      · exact resolved.2
  | createIndex table index =>
      rw [statementEq] at accepted
      rcases first accepted with ⟨name, _, nameEq, _⟩
      simpa [Ddl.tableRefs] using ⟨name, nameEq⟩
  | dropIndex table index =>
      rw [statementEq] at accepted
      rcases first accepted with ⟨name, _, nameEq, _⟩
      simpa [Ddl.tableRefs] using ⟨name, nameEq⟩
  | alterTable table specs =>
      rw [statementEq] at accepted
      rcases first accepted with ⟨name, next, nameEq, altered⟩
      rw [alterTable, bind_eq_ok_iff] at altered
      rcases altered with ⟨definition, _, altered⟩
      rcases bind_eq_ok_iff.mp altered with ⟨final, steps, _⟩
      intro ref refMem
      rcases List.mem_cons.mp refMem with rfl | laterMem
      · exact ⟨name, nameEq⟩
      · exact isResolved_of_foldlM_alterStep steps ref laterMem

theorem agreesOutside_execute (named : namedTables text = .ok names) (catalog : Catalog) :
    AgreesOutside names catalog (catalog.execute text).1 := by
  rcases bind_eq_ok_iff.mp named with ⟨ddl, parsed, tablesEq⟩
  rw [execute, parsed]
  exact agreesOutside_apply tablesEq catalog text

theorem exists_namedTables_of_execute (accepted : (catalog.execute text).2 = .ok ()) :
    ∃ names, namedTables text = .ok names := by
  unfold execute at accepted
  cases parsed : Ddl.parse text with
  | error cause => simp [parsed] at accepted
  | ok ddl =>
      rw [parsed] at accepted
      rcases exists_tables_of_apply accepted with ⟨names, tablesEq⟩
      exact ⟨names, bind_eq_ok_iff.mpr ⟨ddl, parsed, tablesEq⟩⟩

/-- Whatever becomes of a statement, the definition of a table that it does not name is the same
after it, and so is what is answered of the table. -/
theorem tableInfo_execute_of_notMem (catalog : Catalog) (parsed : Ddl.parse text = .ok ddl)
    (tablesEq : ddl.tables = .ok names) {name : QualifiedName} (notNamed : name ∉ names) :
    (catalog.execute text).1.table? name = catalog.table? name ∧
      (catalog.execute text).1.tableInfo name = catalog.tableInfo name := by
  have named : namedTables text = .ok names := bind_eq_ok_iff.mpr ⟨ddl, parsed, tablesEq⟩
  have same := agreesOutside_execute named catalog name notNamed
  exact ⟨same, tableInfo_congr same⟩

/-- A statement that takes one table away, moves another one and is then refused. The tables of a
database that is not in use stay as they are. -/
theorem tableInfo_execute_of_half_renamed :
    let catalog := ["create table s.a (x int primary key)", "create table s.b (y int)",
      "create table t.a like s.b"].foldl (fun catalog text => (catalog.execute text).1) empty
    let text := "use s; rename table a to b, b to c, d to e"
    let names : List QualifiedName := [⟨"s", "a"⟩, ⟨"s", "b"⟩, ⟨"s", "c"⟩, ⟨"s", "d"⟩, ⟨"s", "e"⟩]
    namedTables text = .ok names ∧ (catalog.execute text).2 = .error (.tableNotFound ⟨"s", "d"⟩) ∧
      (catalog.execute text).1.tableInfo ⟨"s", "b"⟩ = .error (.tableMissing ⟨"s", "b"⟩) ∧
      ⟨"t", "a"⟩ ∉ names ∧
      (catalog.execute text).1.tableInfo ⟨"t", "a"⟩ = .ok ⟨["y"], none, []⟩ := by
  intro catalog text names
  have named : namedTables text = .ok names := by decide +kernel
  rcases bind_eq_ok_iff.mp named with ⟨ddl, parsed, tablesEq⟩
  have notNamed : ⟨"t", "a"⟩ ∉ names := by decide
  have answered : catalog.tableInfo ⟨"t", "a"⟩ = .ok ⟨["y"], none, []⟩ := by decide +kernel
  have same := (tableInfo_execute_of_notMem catalog parsed tablesEq notNamed).2
  exact ⟨named, by decide +kernel, by decide +kernel, notNamed, same.trans answered⟩

end Catalog

end RowLog
