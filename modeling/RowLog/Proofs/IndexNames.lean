import Mathlib.Data.List.Perm.Subperm
import RowLog.Catalog.TableDef
import RowLog.Proofs.Lists

/-!
# The names of indexes

An index that is given no name takes that of its first column, with a number if it is taken. One of
the numbers is always free, so no other index has the name; and a name with a number is not that of
the primary key.
-/

namespace RowLog

theorem toLower_of_isDigit {character : Char} (isDigit : character.isDigit = true) :
    character.toLower = character := by
  simp only [Char.isDigit, Bool.and_eq_true, decide_eq_true_eq, UInt32.le_iff_toNat_le,
    ge_iff_le] at isDigit
  have nine : '9'.val.toNat = 57 := rfl
  have capitalA : 'A'.val.toNat = 65 := rfl
  unfold Char.toLower
  rw [dif_neg]
  rintro ⟨isCapital, -⟩
  simp only [UInt32.le_iff_toNat_le, ge_iff_le] at isCapital
  omega

namespace TableDef

variable {definition : TableDef} {name stem : String}

theorem hasColumn_iff : definition.hasColumn name = true ↔
    ∃ column ∈ definition.columns, sameIgnoringCase column.name name = true := by
  simp [hasColumn, column?, List.find?_isSome]

theorem same_of_column?_eq_some {column : Schema.ColumnDef}
    (found : definition.column? name = some column) : sameIgnoringCase column.name name = true := by
  unfold column? at found
  simpa using List.find?_some found

theorem hasIndex_iff : definition.hasIndex name = true ↔
    ∃ index ∈ definition.indexes, sameIgnoringCase index.name name = true := by
  simp [hasIndex]

theorem hasIndex_eq_false_iff : definition.hasIndex name = false ↔
    ∀ index ∈ definition.indexes, sameIgnoringCase index.name name = false := by
  simp [hasIndex]

theorem asciiLower_numbered (stem : String) (number : Nat) :
    asciiLower s!"{stem}_{number}" = asciiLower stem ++ '_' :: Nat.toDigits 10 number := by
  have digits : (Nat.toDigits 10 number).map Char.toLower = Nat.toDigits 10 number := by
    refine (List.map_congr_left fun character characterMem => ?_).trans (List.map_id _)
    exact toLower_of_isDigit (Nat.isDigit_of_mem_toDigits (by decide) (by decide) characterMem)
  simp [asciiLower, digits, toString, Nat.toList_repr]

theorem numbered_injective {first second : Nat}
    (same : asciiLower s!"{stem}_{first}" = asciiLower s!"{stem}_{second}") : first = second := by
  rw [asciiLower_numbered, asciiLower_numbered, List.append_cancel_left_eq,
    List.cons.injEq] at same
  rw [← Nat.ofDigitChars_ten_toDigits (n := first), same.2, Nat.ofDigitChars_ten_toDigits]

/-- The numbered names are more than the indexes, and no two of them are the name of one index. -/
theorem exists_free_number (definition : TableDef) (stem : String) :
    ∃ number ∈ List.range (definition.indexes.length + 1),
      definition.hasIndex s!"{stem}_{number + 2}" = false := by
  by_contra noneFree
  simp only [not_exists, not_and, Bool.not_eq_false] at noneFree
  let candidates := (List.range (definition.indexes.length + 1)).map fun number =>
    asciiLower s!"{stem}_{number + 2}"
  have differ : candidates.Nodup := by
    refine List.nodup_range.map fun first second same => ?_
    have := numbered_injective same
    omega
  have taken : candidates ⊆ definition.indexes.map fun index => asciiLower index.name := by
    intro candidate candidateMem
    rcases List.mem_map.mp candidateMem with ⟨number, numberMem, rfl⟩
    rcases hasIndex_iff.mp (noneFree number numberMem) with ⟨index, indexMem, same⟩
    exact List.mem_map.mpr ⟨index, indexMem, sameIgnoringCase_iff.mp same⟩
  have fewer := (differ.subperm taken).length_le
  simp only [candidates, List.length_map, List.length_range] at fewer
  omega

theorem exists_numberedName_eq (definition : TableDef) (stem : String) :
    ∃ number : Nat, definition.numberedName stem = s!"{stem}_{number}" ∧
      definition.hasIndex (definition.numberedName stem) = false := by
  let candidates := (List.range (definition.indexes.length + 1)).map fun number =>
    s!"{stem}_{number + 2}"
  have nameEq : definition.numberedName stem =
      (candidates.find? fun name => !definition.hasIndex name).getD stem := rfl
  rw [nameEq]
  cases found : candidates.find? fun name => !definition.hasIndex name with
  | none =>
      rcases exists_free_number definition stem with ⟨free, freeMem, isFree⟩
      have taken := List.find?_eq_none.mp found _ (List.mem_map_of_mem freeMem)
      rw [isFree] at taken
      contradiction
  | some name =>
      rcases List.mem_map.mp (List.mem_of_find?_eq_some found) with ⟨number, -, rfl⟩
      have chosen := List.find?_some found
      rw [Bool.not_eq_true'] at chosen
      exact ⟨number + 2, rfl, chosen⟩

/-- The name of an index that is given none is that of no other index. -/
theorem hasIndex_defaultIndexName (definition : TableDef) (column : String) :
    definition.hasIndex (definition.defaultIndexName column) = false := by
  unfold defaultIndexName
  split
  · rcases exists_numberedName_eq definition column with ⟨number, -, isFree⟩
    exact isFree
  · next notTaken => simpa using notTaken

theorem numbered_ne_primaryKeyName (stem : String) (number : Nat) :
    sameIgnoringCase s!"{stem}_{number}" primaryKeyName = false := by
  rw [Bool.eq_false_iff, Ne, sameIgnoringCase_iff, asciiLower_numbered]
  intro same
  have underscore : '_' ∈ asciiLower primaryKeyName := by
    rw [← same]
    simp
  exact absurd underscore (by decide +kernel)

/-- A default name is that of the primary key only if the first column has this name. -/
theorem defaultIndexName_ne_primaryKeyName {column : String}
    (differs : sameIgnoringCase column primaryKeyName = false) :
    sameIgnoringCase (definition.defaultIndexName column) primaryKeyName = false := by
  unfold defaultIndexName
  split
  · rcases exists_numberedName_eq definition column with ⟨number, nameEq, -⟩
    rw [nameEq]
    exact numbered_ne_primaryKeyName column number
  · exact differs

end TableDef

end RowLog
