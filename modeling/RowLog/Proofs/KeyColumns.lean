import Mathlib.Data.List.Pairwise
import RowLog.Proofs.CatalogTables
import RowLog.Row.Key

/-!
# Rows that have a key

A complete row has a value for every stored column of its table. The columns of an index are columns
of the table, but a generated one is not stored; so every complete row has a key exactly if the key
columns are stored ones. Main statement: `Catalog.exists_rowKey_iff_stored`.
-/

namespace RowLog

open Schema

/-- Whether a row has a value for every stored column. -/
def TableInfo.IsComplete (info : TableInfo) (columns : List Column) : Prop :=
  ∀ name ∈ info.columns, ∃ column ∈ columns, column.name = name

theorem exists_columnNamed?_iff {columns : List Column} {name : String} :
    (∃ column, columnNamed? columns name = some column) ↔
      ∃ column ∈ columns, column.name = name := by
  simp [columnNamed?, ← Option.isSome_iff_exists, List.find?_isSome]

theorem exists_rowKey_iff {columns : List Column} {info : TableInfo} {image : Image} :
    (∃ key, rowKey columns info image = .ok key) ↔
      ∀ name ∈ info.keyColumns, ∃ column ∈ columns, column.name = name := by
  constructor
  · rintro ⟨key, keyEq⟩ name nameMem
    rcases map_eq_ok_iff.mp keyEq with ⟨segments, segmentsEq, -⟩
    rcases exists_mem_of_mapM_eq_ok segmentsEq nameMem with ⟨segment, -, found⟩
    apply exists_columnNamed?_iff.mp
    cases columnEq : columnNamed? columns name with
    | none => simp [columnEq] at found
    | some column => exact ⟨column, rfl⟩
  · intro present
    refine (exists_mapM_eq_ok fun name nameMem => ?_).elim fun segments segmentsEq =>
      ⟨keyOfSegments segments, map_eq_ok_iff.mpr ⟨segments, segmentsEq, rfl⟩⟩
    rcases exists_columnNamed?_iff.mpr (present name nameMem) with ⟨column, found⟩
    exact ⟨(column.image image).segment column.type, by rw [found]⟩

/-- The stored columns themselves are a complete row, which has nothing but them. -/
theorem TableInfo.exists_rowKey_of_isComplete_iff (info : TableInfo) :
    (∀ columns, info.IsComplete columns → ∀ image, ∃ key, rowKey columns info image = .ok key) ↔
      ∀ name ∈ info.keyColumns, name ∈ info.columns := by
  constructor
  · intro keyed name nameMem
    let columns := info.columns.map fun stored => (⟨stored, .null, .null, none⟩ : Column)
    have complete : info.IsComplete columns := by
      intro stored storedMem
      exact ⟨_, List.mem_map_of_mem storedMem, rfl⟩
    rcases exists_rowKey_iff.mp (keyed columns complete .pre) name nameMem with
      ⟨column, columnMem, rfl⟩
    rcases List.mem_map.mp columnMem with ⟨stored, storedMem, rfl⟩
    exact storedMem
  · intro stored columns complete image
    exact exists_rowKey_iff.mpr fun name nameMem => complete name (stored name nameMem)

namespace TableDef

variable {definition : TableDef} {name : String}

theorem mem_columns_info_iff : name ∈ definition.info.columns ↔
    ∃ column ∈ definition.columns, column.generated = false ∧ column.name = name := by
  simp [info, and_assoc]

theorem keyColumns_info (definition : TableDef) :
    (∃ index ∈ definition.indexes, definition.info.keyColumns = index.columns) ∨
      definition.info.keyColumns = definition.info.columns := by
  cases primaryKey : definition.info.primaryKey with
  | some key =>
      rcases Option.map_eq_some_iff.mp primaryKey with ⟨index, found, rfl⟩
      refine .inl ⟨index, List.mem_of_find?_eq_some found, ?_⟩
      simp [TableInfo.keyColumns, primaryKey, TableIndex.info]
  | none =>
      cases uniqueKeys : definition.info.uniqueKeys with
      | nil => exact .inr (by simp [TableInfo.keyColumns, primaryKey, uniqueKeys])
      | cons key others =>
          have keyMem : key ∈ definition.info.uniqueKeys := by simp [uniqueKeys]
          rcases List.mem_map.mp keyMem with ⟨index, listed, rfl⟩
          refine .inl ⟨index, List.mem_of_mem_filter listed, ?_⟩
          simp [TableInfo.keyColumns, primaryKey, uniqueKeys, TableIndex.info]

namespace IsWellFormed

theorem keyColumns_ne_nil (wellFormed : definition.IsWellFormed)
    (stored : definition.info.columns ≠ []) : definition.info.keyColumns ≠ [] := by
  rcases keyColumns_info definition with ⟨index, indexMem, keyEq⟩ | keyEq
  · rw [keyEq]
    exact wellFormed.notEmpty index indexMem
  · rwa [keyEq]

theorem exists_of_mem_keyColumns (wellFormed : definition.IsWellFormed)
    (nameMem : name ∈ definition.info.keyColumns) :
    ∃ column ∈ definition.columns, column.name = name := by
  rcases keyColumns_info definition with ⟨index, indexMem, keyEq⟩ | keyEq
  · rw [keyEq] at nameMem
    exact wellFormed.declared index indexMem name nameMem
  · rw [keyEq] at nameMem
    rcases mem_columns_info_iff.mp nameMem with ⟨column, columnMem, -, nameEq⟩
    exact ⟨column, columnMem, nameEq⟩

/-- Two columns with one name are the same, as names differ even without regard to case. -/
theorem eq_of_name_eq (wellFormed : definition.IsWellFormed) {first second : ColumnDef}
    (firstMem : first ∈ definition.columns) (secondMem : second ∈ definition.columns)
    (same : first.name = second.name) : first = second := by
  by_contra differ
  have symmetric : Std.Symm fun left right : ColumnDef =>
      sameIgnoringCase left.name right.name = false := by
    constructor
    intro left right apart
    rwa [sameIgnoringCase_comm]
  have apart := wellFormed.columns_differ.forall firstMem secondMem differ
  rw [same, sameIgnoringCase_iff.mpr rfl] at apart
  contradiction

theorem keyColumns_stored_iff (wellFormed : definition.IsWellFormed) :
    (∀ name ∈ definition.info.keyColumns, name ∈ definition.info.columns) ↔
      ∀ column ∈ definition.columns, column.name ∈ definition.info.keyColumns →
        column.generated = false := by
  constructor
  · intro stored column columnMem inKey
    rcases mem_columns_info_iff.mp (stored column.name inKey) with
      ⟨found, foundMem, notGenerated, sameName⟩
    rwa [← wellFormed.eq_of_name_eq foundMem columnMem sameName]
  · intro notGenerated name nameMem
    rcases wellFormed.exists_of_mem_keyColumns nameMem with ⟨column, columnMem, rfl⟩
    exact mem_columns_info_iff.mpr
      ⟨column, columnMem, notGenerated column columnMem nameMem, rfl⟩

end IsWellFormed

end TableDef

namespace Catalog

variable {catalog : Catalog} {name : QualifiedName} {info : TableInfo}

/-- After any statements, accepted or not, the key of a table has columns, and they are columns of
the table. Every complete row has a key in both images exactly if none of them is generated. -/
theorem exists_rowKey_iff_stored (texts : List String) (name : QualifiedName) (info : TableInfo)
    (known : (empty.executeEach texts).tableInfo name = .ok info) :
    ∃ definition, (empty.executeEach texts).table? name = some definition ∧
      info.keyColumns ≠ [] ∧
      (∀ key ∈ info.keyColumns, ∃ column ∈ definition.columns, column.name = key) ∧
      ((∀ columns, info.IsComplete columns → ∀ image,
          ∃ key, rowKey columns info image = .ok key) ↔
        ∀ column ∈ definition.columns, column.name ∈ info.keyColumns →
          column.generated = false) := by
  rcases tableInfo_eq_ok_iff.mp known with ⟨definition, found, rfl, stored⟩
  have wellFormed := isWellFormed_executeEach found
  refine ⟨definition, found, wellFormed.keyColumns_ne_nil stored, ?_, ?_⟩
  · intro key keyMem
    exact wellFormed.exists_of_mem_keyColumns keyMem
  · rw [TableInfo.exists_rowKey_of_isComplete_iff]
    exact wellFormed.keyColumns_stored_iff

/-- A generated column outside the key does no harm; neither does a statement that is refused. -/
theorem exists_rowKey_of_stored_key :
    let catalog := empty.executeEach
      ["create table s.t (a int, b int as (a + 1), c int, unique key k (c, a))",
        "alter table s.t drop index missing"]
    let info : TableInfo := ⟨["a", "c"], none, [⟨"k", ["c", "a"]⟩]⟩
    catalog.tableInfo ⟨"s", "t"⟩ = .ok info ∧
      ∀ columns, info.IsComplete columns → ∀ image, ∃ key, rowKey columns info image = .ok key := by
  intro catalog info
  have known : catalog.tableInfo ⟨"s", "t"⟩ = .ok info := by decide +kernel
  rcases exists_rowKey_iff_stored _ _ info known with ⟨definition, found, -, -, keyed⟩
  have definitionEq : catalog.table? ⟨"s", "t"⟩ = some
      ⟨[⟨"a", false, false, false⟩, ⟨"b", true, false, false⟩, ⟨"c", false, false, false⟩],
        [⟨"k", false, true, ["c", "a"]⟩]⟩ := by
    decide +kernel
  have same := found.symm.trans definitionEq
  rw [Option.some.injEq] at same
  subst same
  exact ⟨known, keyed.mpr (by decide)⟩

/-- The key of this table is a generated column, which no row has. -/
theorem exists_complete_row_without_key :
    let catalog := empty.executeEach ["create table s.t (a int, b int as (a + 1) unique)"]
    let info : TableInfo := ⟨["a"], none, [⟨"b", ["b"]⟩]⟩
    let columns : List Column := [⟨"a", .long, .int 1, none⟩]
    catalog.tableInfo ⟨"s", "t"⟩ = .ok info ∧ info.IsComplete columns ∧
      rowKey columns info .pre = .error (.missingKeyColumn "b") := by
  intro catalog info columns
  refine ⟨by decide +kernel, ?_, by decide +kernel⟩
  simp [info, columns, TableInfo.IsComplete]

end Catalog

end RowLog
