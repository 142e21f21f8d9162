import RowLog.Proofs.DefinitionChanges
import RowLog.Proofs.TableDefinitions

/-!
# The tables of a catalog

Whatever statements a catalog has gone through, accepted or refused, the definitions of its tables
are well formed, and what the catalog keeps and answers of a table is what its present definition
says. Main statement: `Catalog.isConsistent_executeEach`.
-/

namespace RowLog

open Schema

namespace TableDef

variable {definition : TableDef} {index : TableIndex}

theorem IsWellFormed.spelled (wellFormed : definition.IsWellFormed)
    (listed : index ∈ definition.indexes) :
    ∀ column ∈ index.columns, column ∈ definition.columns.map ColumnDef.name := by
  intro column columnMem
  rcases wellFormed.declared index listed column columnMem with ⟨declared, declaredMem, rfl⟩
  exact List.mem_map_of_mem declaredMem

end TableDef

namespace Catalog

variable {catalog : Catalog} {name : QualifiedName} {info : TableInfo}

theorem tableInfo_eq_ok_iff : catalog.tableInfo name = .ok info ↔
    ∃ definition, catalog.table? name = some definition ∧ definition.info = info ∧
      info.columns ≠ [] := by
  rw [tableInfo, map_info_held?]
  cases catalog.table? name with
  | none => simp
  | some definition =>
      simp only [Option.map_some, List.isEmpty_iff, Option.some.injEq]
      split <;> grind

theorem isWellFormed_executeEach {texts : List String} {definition : TableDef}
    (found : (empty.executeEach texts).table? name = some definition) :
    definition.IsWellFormed :=
  every_executeEach TableDef.isWellFormed_empty
    (fun _ _ _ (_ : True) wellFormed altered => wellFormed.alter altered) (by simp) .empty name
    definition found

/-- After any statements, accepted or not, the names of the columns of a table differ even without
regard to case, one index at most is the primary key, and every index has columns, each spelled as a
column of the table. What is kept beside the definition, and what is answered of the table if it
stores anything, is what the definition says. -/
theorem isConsistent_executeEach (texts : List String) (name : QualifiedName) (entry : TableEntry)
    (found : (empty.executeEach texts).held? name = some entry) :
    (entry.definition.columns.Pairwise fun first second =>
        sameIgnoringCase first.name second.name = false) ∧
      entry.definition.indexes.countP TableIndex.primary ≤ 1 ∧
      (∀ index ∈ entry.definition.indexes, index.columns ≠ [] ∧
        ∀ column ∈ index.columns, column ∈ entry.definition.columns.map ColumnDef.name) ∧
      entry.info = entry.definition.info ∧
      ∀ info, (empty.executeEach texts).tableInfo name = .ok info ↔
        info = entry.definition.info ∧ info.columns ≠ [] := by
  have tableEq := table?_of_held? found
  have wellFormed := isWellFormed_executeEach tableEq
  refine ⟨wellFormed.columns_differ, countP_le_one_of_pairwise wellFormed.one_primary, ?_,
    entry.info_eq, ?_⟩
  · intro index listed
    exact ⟨wellFormed.notEmpty index listed, wellFormed.spelled listed⟩
  · intro info
    rw [tableInfo_eq_ok_iff, tableEq]
    simp [eq_comm]

/-- Columns change their places and the case of their names, and a primary key loses one of them; a
statement is refused after it has changed two columns, and another one after it has renamed the
table. -/
theorem isConsistent_executeEach_of_refused :
    let catalog := empty.executeEach
      ["create table s.t (a int, B int unique, c int as (a + 1), primary key (C, b))",
        "alter table s.t change b b int after c, modify A int first, drop column missing",
        "alter table s.t change b b int after c, modify A int first, drop column a",
        "create table s.u like s.t",
        "rename table s.u to s.v, s.missing to s.w"]
    let definition : TableDef := ⟨[⟨"c", true, false, false⟩, ⟨"b", false, false, false⟩],
      [⟨"B", false, true, ["b"]⟩, ⟨"PRIMARY", true, true, ["c", "b"]⟩]⟩
    ∃ entry, catalog.held? ⟨"s", "v"⟩ = some entry ∧ entry.definition = definition ∧
      (definition.columns.Pairwise fun first second =>
        sameIgnoringCase first.name second.name = false) ∧
      definition.indexes.countP TableIndex.primary ≤ 1 ∧
      (∀ index ∈ definition.indexes, index.columns ≠ [] ∧
        ∀ column ∈ index.columns, column ∈ definition.columns.map ColumnDef.name) ∧
      entry.info = definition.info ∧
      catalog.tableInfo ⟨"s", "v"⟩ = .ok definition.info := by
  intro catalog definition
  have tableEq : catalog.table? ⟨"s", "v"⟩ = some definition := by decide +kernel
  rcases Option.map_eq_some_iff.mp tableEq with ⟨entry, found, definitionEq⟩
  rcases isConsistent_executeEach _ _ entry found with ⟨differ, onePrimary, indexed, kept, answered⟩
  rw [definitionEq] at differ onePrimary indexed kept answered
  exact ⟨entry, found, definitionEq, differ, onePrimary, indexed, kept,
    (answered _).mpr ⟨rfl, by decide⟩⟩

end Catalog

end RowLog
