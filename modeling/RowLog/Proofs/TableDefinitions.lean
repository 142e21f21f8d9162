import Mathlib.Data.List.Perm.Basic
import RowLog.Proofs.IndexNames

/-!
# Well-formed definitions

The columns of a table have different names; each index has columns, all of them columns of the
table and spelled as there; one index at most is the primary key; and an index has the name of an
earlier one only if it is the primary key. The empty definition is of this kind, and every change
keeps it so: `TableDef.IsWellFormed.alter`.
-/

namespace RowLog

open Schema

namespace TableDef

variable {definition next : TableDef} {name : String} {index : IndexDef} {column : ColumnDef}

/-- What holds of every definition that changes of the empty one lead to. -/
structure IsWellFormed (definition : TableDef) : Prop where
  columns_differ : definition.columns.Pairwise fun first second =>
    sameIgnoringCase first.name second.name = false
  declared : ∀ index ∈ definition.indexes, ∀ name ∈ index.columns,
    ∃ column ∈ definition.columns, column.name = name
  notEmpty : ∀ index ∈ definition.indexes, index.columns ≠ []
  one_primary : definition.indexes.Pairwise fun first second =>
    ¬(first.primary = true ∧ second.primary = true)
  /-- To add a primary key is the only change that does not look whether its name is taken. -/
  names_differ : definition.indexes.Pairwise fun first second =>
    sameIgnoringCase first.name second.name = true → second.primary = true

theorem isWellFormed_empty : empty.IsWellFormed where
  columns_differ := .nil
  declared := by simp [empty]
  notEmpty := by simp [empty]
  one_primary := .nil
  names_differ := .nil

/-! ### Adding an index -/

theorem declaredColumns_eq_ok_iff {names found : List String} :
    definition.declaredColumns names = .ok found ↔
      List.Forall₂ (fun name spelled => ∃ column, definition.column? name = some column ∧
        column.name = spelled) names found := by
  rw [declaredColumns, mapM_eq_ok_iff]
  refine iff_of_eq (congrArg (fun relation => List.Forall₂ relation names found) ?_)
  funext name spelled
  cases definition.column? name <;> simp

/-- How an index is listed in a definition that it is added to. -/
structure ListsAs (definition : TableDef) (index : IndexDef) (listed : TableIndex) : Prop where
  primary_eq : listed.primary = index.primary
  unique_eq : listed.unique = index.unique
  columns_eq : definition.declaredColumns index.columns = .ok listed.columns
  notEmpty : listed.columns ≠ []
  name_eq : definition.indexName index (listed.columns.headD "") = .ok listed.name

/-- An index without columns is passed over. -/
theorem addIndex_eq_ok_iff : definition.addIndex index = .ok next ↔
    index.columns = [] ∧ next = definition ∨
      ∃ listed, definition.ListsAs index listed ∧
        next = { definition with indexes := definition.indexes ++ [listed] } := by
  rw [addIndex, bind_eq_ok_iff]
  constructor
  · rintro ⟨columns, columnsEq, added⟩
    cases columns with
    | nil =>
        have noColumns := List.forall₂_nil_right_iff.mp (declaredColumns_eq_ok_iff.mp columnsEq)
        exact .inl ⟨noColumns, (Except.ok.inj added).symm⟩
    | cons first rest =>
        rcases bind_eq_ok_iff.mp added with ⟨name, nameEq, listedEq⟩
        refine .inr ⟨⟨name, index.primary, index.unique, first :: rest⟩, ?_,
          (Except.ok.inj listedEq).symm⟩
        exact ⟨rfl, rfl, columnsEq, by simp, nameEq⟩
  · rintro (⟨noColumns, rfl⟩ | ⟨⟨name, primary, unique, columns⟩, lists, rfl⟩)
    · rw [noColumns]
      exact ⟨[], rfl, rfl⟩
    · rcases lists with ⟨rfl, rfl, columnsEq, notEmpty, nameEq⟩
      refine ⟨columns, columnsEq, ?_⟩
      cases columns with
      | nil => contradiction
      | cons first rest => exact bind_eq_ok_iff.mpr ⟨name, nameEq, rfl⟩

namespace ListsAs

variable {listed : TableIndex}

theorem declared (lists : definition.ListsAs index listed) :
    ∀ name ∈ listed.columns, ∃ column ∈ definition.columns, column.name = name := by
  intro name nameMem
  rcases exists_mem_of_forall₂ (declaredColumns_eq_ok_iff.mp lists.columns_eq) nameMem with
    ⟨_, _, column, found, nameEq⟩
  exact ⟨column, List.mem_of_find?_eq_some found, nameEq⟩

theorem name_of_primary (lists : definition.ListsAs index listed)
    (primary : listed.primary = true) :
    listed.name = primaryKeyName ∧ ∀ other ∈ definition.indexes, other.primary = false := by
  have nameEq := lists.name_eq
  rw [lists.primary_eq] at primary
  rw [indexName, if_pos primary] at nameEq
  split at nameEq
  · contradiction
  · next noPrimary =>
      exact ⟨(Except.ok.inj nameEq).symm, by simpa using noPrimary⟩

theorem hasIndex_name (lists : definition.ListsAs index listed)
    (notPrimary : listed.primary = false) : definition.hasIndex listed.name = false := by
  have nameEq := lists.name_eq
  rw [lists.primary_eq] at notPrimary
  rw [indexName, if_neg (by simp [notPrimary])] at nameEq
  split at nameEq
  · split at nameEq
    · contradiction
    · next notTaken =>
        rw [← Except.ok.inj nameEq]
        simpa using notTaken
  · rw [← Except.ok.inj nameEq]
    exact hasIndex_defaultIndexName definition _

end ListsAs

theorem IsWellFormed.addIndex (wellFormed : definition.IsWellFormed)
    (added : definition.addIndex index = .ok next) : next.IsWellFormed := by
  rcases addIndex_eq_ok_iff.mp added with ⟨-, rfl⟩ | ⟨listed, lists, rfl⟩
  · exact wellFormed
  · refine ⟨wellFormed.columns_differ, ?_, ?_, ?_, ?_⟩
    · intro other otherMem
      rcases List.mem_append.mp otherMem with earlier | last
      · exact wellFormed.declared other earlier
      · rw [List.mem_singleton.mp last]
        exact lists.declared
    · intro other otherMem
      rcases List.mem_append.mp otherMem with earlier | last
      · exact wellFormed.notEmpty other earlier
      · rw [List.mem_singleton.mp last]
        exact lists.notEmpty
    · refine List.pairwise_append.mpr ⟨wellFormed.one_primary, List.pairwise_singleton _ _, ?_⟩
      intro other otherMem last lastMem both
      rw [List.mem_singleton.mp lastMem] at both
      simp [(lists.name_of_primary both.2).2 other otherMem] at both
    · refine List.pairwise_append.mpr ⟨wellFormed.names_differ, List.pairwise_singleton _ _, ?_⟩
      intro other otherMem last lastMem same
      rw [List.mem_singleton.mp lastMem] at same
      rw [List.mem_singleton.mp lastMem]
      cases primary : listed.primary with
      | true => rfl
      | false =>
          have isFree := hasIndex_eq_false_iff.mp (lists.hasIndex_name primary) other otherMem
          simp [isFree] at same

/-! ### Changing columns -/

theorem perm_insertAfter {columns : List ColumnDef}
    (found : ∃ other ∈ columns, sameIgnoringCase other.name name = true) :
    (insertAfter column name columns).Perm (column :: columns) := by
  induction columns with
  | nil => simp at found
  | cons first rest ih =>
      rw [insertAfter]
      split
      · exact .swap column first rest
      · next differs =>
          have later : ∃ other ∈ rest, sameIgnoringCase other.name name = true := by
            simpa [differs] using found
          exact ((ih later).cons first).trans (.swap column first rest)

theorem perm_updateColumn {columns : List ColumnDef} (change : ColumnDef → ColumnDef)
    (found : ∃ other ∈ columns, sameIgnoringCase other.name name = true) :
    ∃ old ∈ columns, sameIgnoringCase old.name name = true ∧
      (updateColumn name change columns).Perm
        (change old :: columns.eraseP fun other => sameIgnoringCase other.name name) := by
  induction columns with
  | nil => simp at found
  | cons first rest ih =>
      rw [updateColumn]
      split
      · next same =>
          refine ⟨first, by simp, same, ?_⟩
          rw [List.eraseP_cons, same, cond_true]
      · next differs =>
          have later : ∃ other ∈ rest, sameIgnoringCase other.name name = true := by
            simpa [differs] using found
          rcases ih later with ⟨old, oldMem, same, perm⟩
          refine ⟨old, by simp [oldMem], same, ?_⟩
          rw [List.eraseP_cons, Bool.eq_false_iff.mpr differs, cond_false]
          exact (perm.cons first).trans (.swap _ first _)

theorem insertColumn_eq_ok {position : Position}
    (inserted : definition.insertColumn column position = .ok next) :
    next.indexes = definition.indexes ∧ next.columns.Perm (column :: definition.columns) := by
  cases position with
  | last =>
      rw [← Except.ok.inj inserted]
      exact ⟨rfl, List.perm_append_singleton column definition.columns⟩
  | first =>
      rw [← Except.ok.inj inserted]
      exact ⟨rfl, .refl _⟩
  | after name =>
      rw [insertColumn] at inserted
      split at inserted
      · next found =>
          rw [← Except.ok.inj inserted]
          exact ⟨rfl, perm_insertAfter (hasColumn_iff.mp found)⟩
      · contradiction

theorem placeColumn_eq_ok {old : String} {position : Position}
    (found : definition.hasColumn old = true)
    (placed : definition.placeColumn old column position = .ok next) :
    next.indexes = definition.indexes ∧
      next.columns.Perm (column :: (definition.eraseColumn old).columns) := by
  unfold placeColumn at placed
  split at placed
  · rw [← Except.ok.inj placed]
    rcases perm_updateColumn (fun _ => column) (hasColumn_iff.mp found) with
      ⟨_, -, -, perm⟩
    exact ⟨rfl, perm⟩
  · exact insertColumn_eq_ok placed

theorem addInlineIndex_eq_ok (added : definition.addInlineIndex column = .ok next) :
    next = definition ∨
      ∃ index, inlineIndex? column = some index ∧ definition.addIndex index = .ok next := by
  unfold addInlineIndex at added
  split at added
  · next index asked => exact .inr ⟨index, asked, added⟩
  · exact .inl (Except.ok.inj added).symm

theorem addColumn_eq_ok {position : Position}
    (added : definition.addColumn column position = .ok next) :
    definition.hasColumn column.name = false ∧
      ∃ inserted, definition.insertColumn column position = .ok inserted ∧
        inserted.addInlineIndex column = .ok next := by
  rcases eq_ok_of_guard added with ⟨isNew, inserted⟩
  exact ⟨by simpa using isNew, bind_eq_ok_iff.mp inserted⟩

theorem dropColumn_eq_ok (dropped : definition.dropColumn name = .ok next) :
    next = (definition.eraseColumn name).eraseFromIndexes name := by
  unfold dropColumn at dropped
  split at dropped
  · exact (Except.ok.inj dropped).symm
  · contradiction

/-- A column takes the place of another one, in the indexes too. -/
theorem replaceColumn_eq_ok {old : String} {position : Position}
    (replaced : definition.replaceColumn old column position = .ok next) :
    (sameIgnoringCase column.name old = true ∨ definition.hasColumn column.name = false) ∧
      ∃ placed : TableDef, placed.indexes = (definition.renameInIndexes old column.name).indexes ∧
        placed.columns.Perm (column :: (definition.eraseColumn old).columns) ∧
        placed.addInlineIndex column = .ok next := by
  unfold replaceColumn at replaced
  rcases eq_ok_of_guard replaced with ⟨isThere, replaced⟩
  rcases eq_ok_of_guard replaced with ⟨noClash, replaced⟩
  rcases bind_eq_ok_iff.mp replaced with ⟨placed, placedEq, indexed⟩
  have stillThere : (definition.renameInIndexes old column.name).hasColumn old = true := by
    rw [Bool.not_eq_true, Bool.not_eq_false'] at isThere
    exact isThere
  rcases placeColumn_eq_ok stillThere placedEq with ⟨indexesEq, perm⟩
  exact ⟨by simpa [or_iff_not_imp_left] using noClash, placed, indexesEq, perm, indexed⟩

theorem renameColumn_eq_ok {source target : String}
    (renamed : definition.renameColumn source target = .ok next) :
    definition.hasColumn source = true ∧ definition.hasColumn target = false ∧
      next = ⟨updateColumn source (fun column => { column with name := target })
        definition.columns, (definition.renameInIndexes source target).indexes⟩ := by
  unfold renameColumn at renamed
  rcases eq_ok_of_guard renamed with ⟨isThere, renamed⟩
  rcases eq_ok_of_guard renamed with ⟨isFree, renamed⟩
  exact ⟨by simpa using isThere, by simpa using isFree, (Except.ok.inj renamed).symm⟩

/-- Names that differ from each other still differ if one more is added that differs from them. -/
theorem differ_of_perm {columns others : List ColumnDef}
    (perm : columns.Perm (column :: others))
    (others_differ : others.Pairwise fun first second =>
      sameIgnoringCase first.name second.name = false)
    (differs : ∀ other ∈ others, sameIgnoringCase other.name column.name = false) :
    columns.Pairwise fun first second => sameIgnoringCase first.name second.name = false := by
  refine (perm.pairwise_iff ?_).mpr (List.pairwise_cons.mpr ⟨?_, others_differ⟩)
  · intro first second apart
    rwa [sameIgnoringCase_comm]
  · intro other otherMem
    rw [sameIgnoringCase_comm]
    exact differs other otherMem

namespace IsWellFormed

theorem insertColumn (wellFormed : definition.IsWellFormed) {position : Position}
    (isNew : definition.hasColumn column.name = false)
    (inserted : definition.insertColumn column position = .ok next) : next.IsWellFormed := by
  rcases insertColumn_eq_ok inserted with ⟨indexesEq, perm⟩
  refine ⟨?_, ?_, ?_, ?_, ?_⟩
  · apply differ_of_perm perm wellFormed.columns_differ
    intro other otherMem
    rw [Bool.eq_false_iff]
    intro same
    rw [hasColumn_iff.mpr ⟨other, otherMem, same⟩] at isNew
    contradiction
  · intro index indexMem name nameMem
    rw [indexesEq] at indexMem
    rcases wellFormed.declared index indexMem name nameMem with ⟨declared, declaredMem, nameEq⟩
    exact ⟨declared, perm.mem_iff.mpr (by simp [declaredMem]), nameEq⟩
  · rw [indexesEq]
    exact wellFormed.notEmpty
  · rw [indexesEq]
    exact wellFormed.one_primary
  · rw [indexesEq]
    exact wellFormed.names_differ

theorem addInlineIndex (wellFormed : definition.IsWellFormed)
    (added : definition.addInlineIndex column = .ok next) : next.IsWellFormed := by
  rcases addInlineIndex_eq_ok added with rfl | ⟨index, -, indexed⟩
  · exact wellFormed
  · exact wellFormed.addIndex indexed

theorem addColumn (wellFormed : definition.IsWellFormed) {position : Position}
    (added : definition.addColumn column position = .ok next) : next.IsWellFormed := by
  rcases addColumn_eq_ok added with ⟨isNew, inserted, insertedEq, indexed⟩
  exact (wellFormed.insertColumn isNew insertedEq).addInlineIndex indexed

theorem addColumns (wellFormed : definition.IsWellFormed) {position : Position}
    {columns : List ColumnDef} (added : definition.addColumns position columns = .ok next) :
    next.IsWellFormed := by
  induction columns generalizing definition position with
  | nil => rwa [← Except.ok.inj added]
  | cons column rest ih =>
      rcases bind_eq_ok_iff.mp added with ⟨middle, first, later⟩
      exact ih (wellFormed.addColumn first) later

/-- No column but the one that is erased has its name. -/
theorem differs_of_mem_eraseColumn (wellFormed : definition.IsWellFormed) (name : String) :
    ∀ column ∈ (definition.eraseColumn name).columns,
      sameIgnoringCase column.name name = false := by
  rcases definition with ⟨columns, indexes⟩
  have differ : columns.Pairwise _ := wellFormed.columns_differ
  clear wellFormed
  change ∀ column ∈ columns.eraseP _, _
  induction columns with
  | nil => simp
  | cons first rest ih =>
      rw [List.pairwise_cons] at differ
      rw [List.eraseP_cons]
      cases same : sameIgnoringCase first.name name with
      | true =>
          intro column columnMem
          rw [cond_true] at columnMem
          rw [sameIgnoringCase_comm, ← sameIgnoringCase_congr same]
          exact differ.1 column columnMem
      | false =>
          intro column columnMem
          rw [cond_false] at columnMem
          rcases List.mem_cons.mp columnMem with rfl | laterMem
          · exact same
          · exact ih differ.2 column laterMem

/-- A column that has another name is still there when one is erased. -/
theorem exists_mem_eraseColumn {declared : ColumnDef} (declaredMem : declared ∈ definition.columns)
    (differs : sameIgnoringCase declared.name name = false) :
    declared ∈ (definition.eraseColumn name).columns :=
  (List.mem_eraseP_of_neg (by simp [differs])).mpr declaredMem

theorem dropColumn (wellFormed : definition.IsWellFormed)
    (dropped : definition.dropColumn name = .ok next) : next.IsWellFormed := by
  rcases dropColumn_eq_ok dropped with rfl
  let shorten (index : TableIndex) : TableIndex :=
    { index with columns := index.columns.filter fun column => !sameIgnoringCase column name }
  have kept {index : TableIndex}
      (indexMem : index ∈ ((definition.eraseColumn name).eraseFromIndexes name).indexes) :
      index.columns ≠ [] ∧ ∃ before ∈ definition.indexes, shorten before = index := by
    rcases List.mem_filter.mp indexMem with ⟨shortened, notEmpty⟩
    exact ⟨by simpa using notEmpty, List.mem_map.mp shortened⟩
  have sublist : ((definition.eraseColumn name).eraseFromIndexes name).indexes.Sublist
      (definition.indexes.map shorten) :=
    List.filter_sublist
  refine ⟨wellFormed.columns_differ.sublist List.eraseP_sublist, ?_, ?_, ?_, ?_⟩
  · intro index indexMem column columnMem
    rcases kept indexMem with ⟨-, before, beforeMem, rfl⟩
    rcases List.mem_filter.mp columnMem with ⟨columnMem, differs⟩
    rcases wellFormed.declared before beforeMem column columnMem with ⟨declared, declaredMem, rfl⟩
    exact ⟨declared, exists_mem_eraseColumn declaredMem (by simpa using differs), rfl⟩
  · intro index indexMem
    exact (kept indexMem).1
  · exact (List.pairwise_map.mpr wellFormed.one_primary).sublist sublist
  · exact (List.pairwise_map.mpr wellFormed.names_differ).sublist sublist

theorem replace (wellFormed : definition.IsWellFormed) {old : String} {columns : List ColumnDef}
    (perm : columns.Perm (column :: (definition.eraseColumn old).columns))
    (isNew : sameIgnoringCase column.name old = true ∨ definition.hasColumn column.name = false) :
    IsWellFormed ⟨columns, (definition.renameInIndexes old column.name).indexes⟩ := by
  refine ⟨?_, ?_, ?_, ?_, ?_⟩
  · apply differ_of_perm perm (wellFormed.columns_differ.sublist List.eraseP_sublist)
    intro other otherMem
    rw [Bool.eq_false_iff]
    intro same
    rcases isNew with sameOld | isNew
    · have clash := sameIgnoringCase_trans same sameOld
      rw [wellFormed.differs_of_mem_eraseColumn old other otherMem] at clash
      contradiction
    · rw [hasColumn_iff.mpr ⟨other, List.mem_of_mem_eraseP otherMem, same⟩] at isNew
      contradiction
  · intro index indexMem name nameMem
    rcases List.mem_map.mp indexMem with ⟨before, beforeMem, rfl⟩
    rcases List.mem_map.mp nameMem with ⟨nameBefore, nameBeforeMem, nameEq⟩
    split at nameEq
    · exact ⟨column, perm.mem_iff.mpr (by simp), nameEq⟩
    · next differs =>
        rcases wellFormed.declared before beforeMem nameBefore nameBeforeMem with
          ⟨declared, declaredMem, rfl⟩
        have still := exists_mem_eraseColumn declaredMem (by simpa using differs)
        exact ⟨declared, perm.mem_iff.mpr (by simp [still]), nameEq⟩
  · intro index indexMem
    rcases List.mem_map.mp indexMem with ⟨before, beforeMem, rfl⟩
    simpa using wellFormed.notEmpty before beforeMem
  · exact List.pairwise_map.mpr wellFormed.one_primary
  · exact List.pairwise_map.mpr wellFormed.names_differ

theorem replaceColumn (wellFormed : definition.IsWellFormed) {old : String} {position : Position}
    (replaced : definition.replaceColumn old column position = .ok next) : next.IsWellFormed := by
  rcases replaceColumn_eq_ok replaced with ⟨isNew, placed, indexesEq, perm, indexed⟩
  have placedFormed := wellFormed.replace perm isNew
  rw [← indexesEq] at placedFormed
  exact placedFormed.addInlineIndex indexed

theorem renameColumn (wellFormed : definition.IsWellFormed) {source target : String}
    (renamed : definition.renameColumn source target = .ok next) : next.IsWellFormed := by
  rcases renameColumn_eq_ok renamed with ⟨isThere, isNew, rfl⟩
  rcases perm_updateColumn (fun column => { column with name := target })
    (hasColumn_iff.mp isThere) with ⟨old, -, -, perm⟩
  exact wellFormed.replace perm (.inr isNew)

end IsWellFormed

/-! ### Dropping and renaming an index -/

theorem mem_updateIndex {indexes : List TableIndex} {change : TableIndex → TableIndex}
    {listed : TableIndex} (listedMem : listed ∈ updateIndex name change indexes) :
    listed ∈ indexes ∨
      ∃ old ∈ indexes, sameIgnoringCase old.name name = true ∧ listed = change old := by
  induction indexes with
  | nil => simp [updateIndex] at listedMem
  | cons first rest ih =>
      rw [updateIndex] at listedMem
      split at listedMem
      · next same =>
          rcases List.mem_cons.mp listedMem with rfl | laterMem
          · exact .inr ⟨first, by simp, same, rfl⟩
          · exact .inl (by simp [laterMem])
      · rcases List.mem_cons.mp listedMem with rfl | laterMem
        · exact .inl (by simp)
        · rcases ih laterMem with unchanged | ⟨old, oldMem, same, changed⟩
          · exact .inl (by simp [unchanged])
          · exact .inr ⟨old, by simp [oldMem], same, changed⟩

/-- What a change of an index leaves alone is the same for all indexes after it. -/
theorem map_updateIndex {α : Type} {field : TableIndex → α} {change : TableIndex → TableIndex}
    (indexes : List TableIndex) (same : ∀ index, field (change index) = field index) :
    (updateIndex name change indexes).map field = indexes.map field := by
  induction indexes with
  | nil => rfl
  | cons first rest ih =>
      rw [updateIndex]
      split
      · simp [same]
      · simp [ih]

theorem pairwise_updateIndex {relation : TableIndex → TableIndex → Prop}
    {change : TableIndex → TableIndex} {indexes : List TableIndex}
    (related : indexes.Pairwise relation)
    (new : ∀ old ∈ indexes, ∀ other ∈ indexes,
      relation (change old) other ∧ relation other (change old)) :
    (updateIndex name change indexes).Pairwise relation := by
  induction indexes with
  | nil => exact .nil
  | cons first rest ih =>
      rw [List.pairwise_cons] at related
      rw [updateIndex]
      split
      · refine List.pairwise_cons.mpr ⟨fun other otherMem => ?_, related.2⟩
        exact (new first (by simp) other (by simp [otherMem])).1
      · refine List.pairwise_cons.mpr ⟨fun other otherMem => ?_, ih related.2 ?_⟩
        · rcases mem_updateIndex otherMem with unchanged | ⟨old, oldMem, -, rfl⟩
          · exact related.1 other unchanged
          · exact (new old (by simp [oldMem]) first (by simp)).2
        · intro old oldMem other otherMem
          exact new old (by simp [oldMem]) other (by simp [otherMem])

theorem dropIndex_eq_ok (dropped : definition.dropIndex name = .ok next) :
    ∃ before found after, definition.indexes = before ++ found :: after ∧
      (∀ index ∈ before, sameIgnoringCase index.name name = false) ∧
      sameIgnoringCase found.name name = true ∧
      next = { definition with indexes := before ++ after } := by
  unfold dropIndex at dropped
  split at dropped
  · next isThere =>
      rcases hasIndex_iff.mp isThere with ⟨index, indexMem, same⟩
      rcases List.exists_of_eraseP (p := fun index => sameIgnoringCase index.name name) indexMem
        same with ⟨found, before, after, differ, foundSame, indexesEq, erased⟩
      refine ⟨before, found, after, indexesEq, by simpa using differ, foundSame, ?_⟩
      rw [← Except.ok.inj dropped, erased]
  · contradiction

theorem renameIndex_eq_ok {source target : String}
    (renamed : definition.renameIndex source target = .ok next) :
    definition.hasIndex target = false ∧
      next = { definition with
        indexes := updateIndex source (fun index => { index with name := target })
          definition.indexes } := by
  unfold renameIndex at renamed
  rcases eq_ok_of_guard renamed with ⟨-, renamed⟩
  rcases eq_ok_of_guard renamed with ⟨isFree, renamed⟩
  exact ⟨by simpa using isFree, (Except.ok.inj renamed).symm⟩

namespace IsWellFormed

theorem dropIndex (wellFormed : definition.IsWellFormed)
    (dropped : definition.dropIndex name = .ok next) : next.IsWellFormed := by
  rcases dropIndex_eq_ok dropped with ⟨before, found, after, indexesEq, -, -, rfl⟩
  have sublist : (before ++ after).Sublist definition.indexes := by
    rw [indexesEq]
    exact (List.Sublist.refl before).append (List.sublist_cons_self found after)
  exact {
    columns_differ := wellFormed.columns_differ
    declared := fun index indexMem => wellFormed.declared index (sublist.subset indexMem)
    notEmpty := fun index indexMem => wellFormed.notEmpty index (sublist.subset indexMem)
    one_primary := wellFormed.one_primary.sublist sublist
    names_differ := wellFormed.names_differ.sublist sublist }

theorem renameIndex (wellFormed : definition.IsWellFormed) {source target : String}
    (renamed : definition.renameIndex source target = .ok next) : next.IsWellFormed := by
  rcases renameIndex_eq_ok renamed with ⟨isFree, rfl⟩
  have differs := hasIndex_eq_false_iff.mp isFree
  have columnsEq : (updateIndex source (fun index => { index with name := target })
      definition.indexes).map TableIndex.columns = definition.indexes.map TableIndex.columns :=
    map_updateIndex definition.indexes fun _ => rfl
  have primaryEq : (updateIndex source (fun index => { index with name := target })
      definition.indexes).map TableIndex.primary = definition.indexes.map TableIndex.primary :=
    map_updateIndex definition.indexes fun _ => rfl
  -- An index after the change has the columns of one before it.
  have before {index : TableIndex} (indexMem : index ∈ updateIndex source
      (fun index => { index with name := target }) definition.indexes) :
      ∃ old ∈ definition.indexes, old.columns = index.columns := by
    have fieldMem := List.mem_map_of_mem (f := TableIndex.columns) indexMem
    rw [columnsEq] at fieldMem
    exact List.mem_map.mp fieldMem
  refine ⟨wellFormed.columns_differ, ?_, ?_, ?_, ?_⟩
  · intro index indexMem
    rcases before indexMem with ⟨old, oldMem, sameColumns⟩
    rw [← sameColumns]
    exact wellFormed.declared old oldMem
  · intro index indexMem
    rcases before indexMem with ⟨old, oldMem, sameColumns⟩
    rw [← sameColumns]
    exact wellFormed.notEmpty old oldMem
  · have onePrimary : (definition.indexes.map TableIndex.primary).Pairwise
        fun first second => ¬(first = true ∧ second = true) :=
      List.pairwise_map.mpr wellFormed.one_primary
    rw [← primaryEq] at onePrimary
    exact List.pairwise_map.mp onePrimary
  · apply pairwise_updateIndex wellFormed.names_differ
    intro old _ other otherMem
    constructor
    · intro clash
      rw [sameIgnoringCase_comm, differs other otherMem] at clash
      contradiction
    · intro clash
      rw [differs other otherMem] at clash
      contradiction

theorem alter (wellFormed : definition.IsWellFormed) {spec : AlterSpec}
    (altered : definition.alter spec = .ok next) : next.IsWellFormed := by
  cases spec with
  | addColumns columns position => exact wellFormed.addColumns altered
  | dropColumn name => exact wellFormed.dropColumn altered
  | modifyColumn column position => exact wellFormed.replaceColumn altered
  | changeColumn old column position => exact wellFormed.replaceColumn altered
  | renameColumn source target => exact wellFormed.renameColumn altered
  | addIndex index => exact wellFormed.addIndex altered
  | dropPrimaryKey => exact wellFormed.dropIndex altered
  | dropIndex name => exact wellFormed.dropIndex altered
  | renameIndex source target => exact wellFormed.renameIndex altered
  | renameTable target => rwa [← Except.ok.inj altered]
  | other => rwa [← Except.ok.inj altered]

end IsWellFormed

end TableDef

end RowLog
