import RowLog.Proofs.DecimalSpellings
import RowLog.Proofs.Lists
import RowLog.Proofs.PrefixCodes
import RowLog.Row.Key

/-!
# Keys of equal values

The log may write one value in several ways: an integer with or without a sign, a decimal or a text
as itself or as bytes, a bit string as bytes or as a number, an enumeration with any name beside its
code. `CellValue.Denotes` says which value is meant, and rows that mean the same in their key
columns have one key. Rows with different decimals in a key column have different keys. Main
statement: `rowKey_eq_iff_of_denotes`.
-/

namespace RowLog

/-- The number that a bit string denotes, highest byte first. -/
def bitNumber : List UInt8 → Nat
  | [] => 0
  | byte :: rest => byte.toNat * 256 ^ rest.length + bitNumber rest

@[simp]
theorem bitNumber_cons_zero (bytes : List UInt8) : bitNumber (0 :: bytes) = bitNumber bytes := by
  simp [bitNumber]

/-- Of the number of a bit string, the low 64 bits count. -/
theorem bitValue_eq (bytes : List UInt8) : bitValue bytes = bitNumber bytes % 2 ^ 64 := by
  have afterStart (start : Nat) :
      bytes.foldl (fun value byte => (value * 256 + byte.toNat) % 0x10000000000000000)
          (start % 2 ^ 64) =
        (start * 256 ^ bytes.length + bitNumber bytes) % 2 ^ 64 := by
    induction bytes generalizing start with
    | nil => simp [bitNumber]
    | cons byte rest ih =>
        have step : (start % 2 ^ 64 * 256 + byte.toNat) % 0x10000000000000000 =
            (start * 256 + byte.toNat) % 2 ^ 64 := by
          omega
        rw [List.foldl_cons, step, ih, bitNumber, List.length_cons]
        congr 1
        ring
  simpa [bitValue] using afterStart 0

/-- What a value of a column means. -/
inductive LogicalValue
  | integer (value : Int)
  | decimal (value : ℚ)
  | text (value : String)
  /-- One of the names that a column declares, by its number. -/
  | choice (code : UInt64)
  /-- Some of the names that a column declares, by their bits. -/
  | choices (bits : UInt64)
  /-- A value that is written in one way only. -/
  | exact (type : ColumnType) (value : CellValue)

namespace CellValue

/-- Whether a value in a column of a given type means a logical value. -/
inductive Denotes (type : ColumnType) : CellValue → LogicalValue → Prop
  | int (value : Int64) : Denotes type (.int value) (.integer value.toInt)
  | uint (value : UInt64) : Denotes type (.uint value) (.integer value.toNat)
  | bit (bytes : List UInt8) : Denotes type (.bit bytes) (.integer (bitNumber bytes % 2 ^ 64 : Nat))
  | bitBytes (isBit : type = .bit) (bytes : List UInt8) :
      Denotes type (.bytes bytes) (.integer (bitNumber bytes % 2 ^ 64 : Nat))
  | decimal {literal : String} {number : ℚ} (spells : SpellsDecimal literal.toList number) :
      Denotes type (.decimal literal) (.decimal number)
  | decimalText {literal : String} {number : ℚ} (isDecimal : type.isDecimal = true)
      (spells : SpellsDecimal literal.toList number) :
      Denotes type (.text literal) (.decimal number)
  | decimalBytes {bytes : List UInt8} {literal : String} {number : ℚ}
      (isDecimal : type.isDecimal = true) (decoded : Utf8.decode? bytes = some literal)
      (spells : SpellsDecimal literal.toList number) :
      Denotes type (.bytes bytes) (.decimal number)
  | text (isTextual : type.isTextual = true) (notDecimal : type.isDecimal = false)
      (text : String) : Denotes type (.text text) (.text text)
  | time (isTextual : type.isTextual = true) (notDecimal : type.isDecimal = false)
      (text : String) : Denotes type (.time text) (.text text)
  | textBytes {bytes : List UInt8} {text : String} (isTextual : type.isTextual = true)
      (notDecimal : type.isDecimal = false) (decoded : Utf8.decode? bytes = some text) :
      Denotes type (.bytes bytes) (.text text)
  | enum (name : String) (code : UInt64) : Denotes type (.enum name code) (.choice code)
  | set (names : String) (bits : UInt64) : Denotes type (.set names bits) (.choices bits)
  | exact (value : CellValue) : Denotes type value (.exact type value)

variable {type otherType : ColumnType} {value other : CellValue} {logical : LogicalValue}

theorem intChars_natCast (value : Nat) : Json.intChars value = Nat.toDigits 10 value := by
  simp [Json.intChars]

namespace Denotes

theorem segment_integer {number : Int} (denotes : value.Denotes type (.integer number)) :
    value.segment type = Json.intChars number := by
  cases denotes with
  | int value => rfl
  | uint value => exact (intChars_natCast _).symm
  | bit bytes => simp only [segment, bitValue_eq, ← intChars_natCast]
  | bitBytes isBit bytes =>
      simp only [segment, bytesSegment, isBit, if_true, bitValue_eq, ← intChars_natCast]

theorem exists_segment_decimal {number : ℚ} (denotes : value.Denotes type (.decimal number)) :
    ∃ literal, SpellsDecimal literal number ∧ value.segment type = canonicalDecimal literal := by
  cases denotes with
  | decimal spells => exact ⟨_, spells, rfl⟩
  | decimalText isDecimal spells => exact ⟨_, spells, by simp [segment, isDecimal]⟩
  | decimalBytes isDecimal decoded spells =>
      have notBit : type ≠ .bit := by
        rintro rfl
        contradiction
      exact ⟨_, spells, by simp [segment, bytesSegment, notBit, isDecimal, Utf8.repair, decoded]⟩

theorem segment_text {text : String} (denotes : value.Denotes type (.text text)) :
    value.segment type = text.toList := by
  cases denotes with
  | text isTextual notDecimal => simp [segment, notDecimal]
  | time isTextual notDecimal => rfl
  | textBytes isTextual notDecimal decoded =>
      have notBit : type ≠ .bit := by
        rintro rfl
        contradiction
      simp [segment, bytesSegment, notBit, notDecimal, isTextual, Utf8.repair, decoded]

/-- Values that mean the same have one segment. -/
theorem segment_eq (denotes : value.Denotes type logical)
    (otherDenotes : other.Denotes otherType logical) :
    value.segment type = other.segment otherType := by
  cases logical with
  | integer number => rw [denotes.segment_integer, otherDenotes.segment_integer]
  | decimal number =>
      rcases denotes.exists_segment_decimal with ⟨literal, spells, segmentEq⟩
      rcases otherDenotes.exists_segment_decimal with ⟨otherLiteral, otherSpells, otherEq⟩
      rw [segmentEq, otherEq, canonicalDecimal_eq_iff spells otherSpells]
  | text text => rw [denotes.segment_text, otherDenotes.segment_text]
  | choice code =>
      cases denotes
      cases otherDenotes
      rfl
  | choices bits =>
      cases denotes
      cases otherDenotes
      rfl
  | exact originType origin =>
      cases denotes
      cases otherDenotes
      rfl

/-- Decimals have one segment exactly if they are equal as numbers. -/
theorem segment_decimal_eq_iff {number otherNumber : ℚ}
    (denotes : value.Denotes type (.decimal number))
    (otherDenotes : other.Denotes otherType (.decimal otherNumber)) :
    value.segment type = other.segment otherType ↔ number = otherNumber := by
  rcases denotes.exists_segment_decimal with ⟨literal, spells, segmentEq⟩
  rcases otherDenotes.exists_segment_decimal with ⟨otherLiteral, otherSpells, otherEq⟩
  rw [segmentEq, otherEq, canonicalDecimal_eq_iff spells otherSpells]

end Denotes

end CellValue

theorem keySegments_eq_ok_iff {columns : List Column} {info : TableInfo} {image : Image}
    {segments : List (List Char)} :
    keySegments columns info image = .ok segments ↔
      List.Forall₂ (fun name segment => ∃ column, columnNamed? columns name = some column ∧
        (column.image image).segment column.type = segment) info.keyColumns segments := by
  rw [keySegments, mapM_eq_ok_iff]
  refine iff_of_eq (congrArg (fun relation => List.Forall₂ relation _ segments) ?_)
  funext name segment
  cases columnNamed? columns name <;> simp

/-- Whether two rows have a column with a given name that means the same in an image of each. -/
def MeanSame (left right : List Column) (image other : Image) (name : String) : Prop :=
  ∃ first second logical, columnNamed? left name = some first ∧
    columnNamed? right name = some second ∧
    (first.image image).Denotes first.type logical ∧
    (second.image other).Denotes second.type logical

/-- Whether a row has a column with a given name that holds a decimal number in an image of it. -/
def HoldsDecimal (columns : List Column) (image : Image) (name : String) (number : ℚ) : Prop :=
  ∃ column, columnNamed? columns name = some column ∧
    (column.image image).Denotes column.type (.decimal number)

/-- Whether two rows hold decimal numbers in a column with a given name. -/
def HoldDecimals (left right : List Column) (image other : Image) (name : String) : Prop :=
  (∃ number, HoldsDecimal left image name number) ∧ ∃ number, HoldsDecimal right other name number

section

variable {columns left right : List Column} {info : TableInfo} {image other : Image}
  {name : String} {segments others : List (List Char)} {number otherNumber : ℚ}

theorem rowKey_of_keySegments (found : keySegments columns info image = .ok segments) :
    rowKey columns info image = .ok (keyOfSegments segments) :=
  map_eq_ok_iff.mpr ⟨segments, found, rfl⟩

/-- The segment of a key column is at the place of the column. -/
theorem getElem?_keySegments {index : Nat} {column : Column}
    (found : keySegments columns info image = .ok segments)
    (nameEq : info.keyColumns[index]? = some name)
    (columnEq : columnNamed? columns name = some column) :
    segments[index]? = some ((column.image image).segment column.type) := by
  rcases List.forall₂_iff_get.mp (keySegments_eq_ok_iff.mp found) with ⟨lengths, each⟩
  rcases List.getElem?_eq_some_iff.mp nameEq with ⟨inside, sameName⟩
  rcases each index inside (lengths ▸ inside) with ⟨sameColumn, sameEq, segmentEq⟩
  rw [List.get_eq_getElem, sameName, columnEq, Option.some.injEq] at sameEq
  rw [List.getElem?_eq_getElem (lengths ▸ inside), sameEq, segmentEq, List.get_eq_getElem]

/-- Decimals have one segment exactly if they are equal as numbers. -/
theorem getElem?_keySegments_eq_iff {index : Nat}
    (leftSegments : keySegments left info image = .ok segments)
    (rightSegments : keySegments right info other = .ok others)
    (nameEq : info.keyColumns[index]? = some name) (holds : HoldsDecimal left image name number)
    (otherHolds : HoldsDecimal right other name otherNumber) :
    segments[index]? = others[index]? ↔ number = otherNumber := by
  rcases holds with ⟨column, columnEq, denotes⟩
  rcases otherHolds with ⟨otherColumn, otherEq, otherDenotes⟩
  rw [getElem?_keySegments leftSegments nameEq columnEq,
    getElem?_keySegments rightSegments nameEq otherEq, Option.some.injEq]
  exact denotes.segment_decimal_eq_iff otherDenotes

theorem meanSame_iff_of_holdsDecimal (holds : HoldsDecimal left image name number)
    (otherHolds : HoldsDecimal right other name otherNumber) :
    MeanSame left right image other name ↔ number = otherNumber := by
  rcases holds with ⟨column, columnEq, denotes⟩
  rcases otherHolds with ⟨otherColumn, otherEq, otherDenotes⟩
  constructor
  · rintro ⟨first, second, logical, firstEq, secondEq, means, alsoMeans⟩
    rw [columnEq, Option.some.injEq] at firstEq
    rw [otherEq, Option.some.injEq] at secondEq
    subst firstEq secondEq
    exact (denotes.segment_decimal_eq_iff otherDenotes).mp (means.segment_eq alsoMeans)
  · rintro rfl
    exact ⟨column, otherColumn, .decimal number, columnEq, otherEq, denotes, otherDenotes⟩

theorem exists_keySegments_of_meanSame
    (same : ∀ name ∈ info.keyColumns, MeanSame left right image other name) :
    ∃ segments, keySegments left info image = .ok segments ∧
      keySegments right info other = .ok segments := by
  have common : ∀ name ∈ info.keyColumns, ∃ segment,
      (∃ column, columnNamed? left name = some column ∧
        (column.image image).segment column.type = segment) ∧
      ∃ column, columnNamed? right name = some column ∧
        (column.image other).segment column.type = segment := by
    intro name nameMem
    rcases same name nameMem with ⟨first, second, logical, firstEq, secondEq, means, alsoMeans⟩
    exact ⟨_, ⟨first, firstEq, rfl⟩, second, secondEq, (means.segment_eq alsoMeans).symm⟩
  rcases exists_forall₂ common with ⟨segments, related⟩
  exact ⟨segments, keySegments_eq_ok_iff.mpr (related.imp fun _ _ both => both.1),
    keySegments_eq_ok_iff.mpr (related.imp fun _ _ both => both.2)⟩

theorem exists_columns (comparable :
      MeanSame left right image other name ∨ HoldDecimals left right image other name) :
    (∃ column, columnNamed? left name = some column) ∧
      ∃ column, columnNamed? right name = some column := by
  rcases comparable with ⟨first, second, _, firstEq, secondEq, -⟩ | ⟨⟨_, holds⟩, _, otherHolds⟩
  · exact ⟨⟨first, firstEq⟩, second, secondEq⟩
  · rcases holds with ⟨first, firstEq, -⟩
    rcases otherHolds with ⟨second, secondEq, -⟩
    exact ⟨⟨first, firstEq⟩, second, secondEq⟩

theorem exists_keySegments
    (each : ∀ name ∈ info.keyColumns, ∃ column, columnNamed? columns name = some column) :
    ∃ segments, keySegments columns info image = .ok segments := by
  apply exists_mapM_eq_ok
  intro name nameMem
  rcases each name nameMem with ⟨column, columnEq⟩
  exact ⟨(column.image image).segment column.type, by rw [columnEq]⟩

end

/-- Rows of which each key column means the same in both or holds decimals in both have keys, and
the keys are equal exactly if all key columns mean the same. A key is made of the segments of its
columns, and those of decimals, in any spelling, are equal exactly if the numbers are. -/
theorem rowKey_eq_iff_of_denotes (info : TableInfo) (left right : List Column)
    (image other : Image) :
    ((∀ name ∈ info.keyColumns,
        MeanSame left right image other name ∨ HoldDecimals left right image other name) →
      ∃ key otherKey, rowKey left info image = .ok key ∧ rowKey right info other = .ok otherKey ∧
        (key = otherKey ↔ ∀ name ∈ info.keyColumns, MeanSame left right image other name)) ∧
      ∀ segments others, keySegments left info image = .ok segments →
        keySegments right info other = .ok others →
        rowKey left info image = .ok (keyOfSegments segments) ∧
        rowKey right info other = .ok (keyOfSegments others) ∧
        ∀ (index : Nat) name number otherNumber, info.keyColumns[index]? = some name →
          HoldsDecimal left image name number → HoldsDecimal right other name otherNumber →
          (segments[index]? = others[index]? ↔ number = otherNumber) ∧
          (MeanSame left right image other name ↔ number = otherNumber) := by
  constructor
  · intro comparable
    rcases exists_keySegments fun name nameMem => (exists_columns (comparable name nameMem)).1 with
      ⟨segments, leftSegments⟩
    rcases exists_keySegments fun name nameMem => (exists_columns (comparable name nameMem)).2 with
      ⟨others, rightSegments⟩
    refine ⟨_, _, rowKey_of_keySegments leftSegments, rowKey_of_keySegments rightSegments, ?_, ?_⟩
    · intro keyEq name nameMem
      -- The key tells its segments, so unequal decimals would show in it.
      have segmentsEq : segments = others := keyOfSegments_injective keyEq
      rcases comparable name nameMem with same | ⟨⟨number, holds⟩, otherNumber, otherHolds⟩
      · exact same
      · rcases List.getElem?_of_mem nameMem with ⟨index, nameEq⟩
        apply (meanSame_iff_of_holdsDecimal holds otherHolds).mpr
        apply (getElem?_keySegments_eq_iff leftSegments rightSegments nameEq holds otherHolds).mp
        rw [segmentsEq]
    · intro same
      rcases exists_keySegments_of_meanSame same with ⟨common, leftCommon, rightCommon⟩
      rw [leftSegments, Except.ok.injEq] at leftCommon
      rw [rightSegments, Except.ok.injEq] at rightCommon
      rw [leftCommon, rightCommon]
  · intro segments others leftSegments rightSegments
    refine ⟨rowKey_of_keySegments leftSegments, rowKey_of_keySegments rightSegments, ?_⟩
    intro index name number otherNumber nameEq holds otherHolds
    exact ⟨getElem?_keySegments_eq_iff leftSegments rightSegments nameEq holds otherHolds,
      meanSame_iff_of_holdsDecimal holds otherHolds⟩

/-- A row after an update, the same row in other encodings and one with another decimal. The same
is an integer without a sign, a decimal with a plus sign and zeros and as bytes between blanks, a
text with a separator, bits with leading zeros, zero with a sign and without digits before the
point, an enumeration whose names have changed. -/
theorem rowKey_eq_iff_of_encodings :
    let info : TableInfo := ⟨["i", "d", "t", "b", "z", "e"], none, []⟩
    let left : List Column := [⟨"i", .long, .null, some (.int 42)⟩,
      ⟨"d", .newDecimal, .decimal "+007.50", none⟩, ⟨"t", .varchar, .time "a|b", none⟩,
      ⟨"b", .bit, .bytes [0, 0, 1, 0], none⟩, ⟨"z", .newDecimal, .text "-0", none⟩,
      ⟨"e", .enum, .enum "red" 2, none⟩]
    let others : List Column := [⟨"e", .enum, .enum "rouge" 2, none⟩, ⟨"b", .bit, .uint 256, none⟩,
      ⟨"t", .string, .bytes [97, 124, 98], none⟩, ⟨"z", .decimal, .decimal ".00", none⟩,
      ⟨"i", .longLong, .uint 42, none⟩]
    let right : List Column := ⟨"d", .decimal, .bytes [32, 55, 46, 53, 10], none⟩ :: others
    let further : List Column := ⟨"d", .decimal, .text "7.05", none⟩ :: others
    (∀ name ∈ info.keyColumns, MeanSame left right .post .pre name) ∧
      rowKey left info .post = .ok "42|7.5|a\\|b|256|0|2|" ∧
      rowKey right info .pre = .ok "42|7.5|a\\|b|256|0|2|" ∧
      (∀ name ∈ info.keyColumns,
        MeanSame left further .post .pre name ∨ HoldDecimals left further .post .pre name) ∧
      rowKey further info .pre = .ok "42|7.05|a\\|b|256|0|2|" ∧
      ¬∀ name ∈ info.keyColumns, MeanSame left further .post .pre name := by
  intro info left others right further
  have plus : SpellsDecimal "+007.50".toList (15 / 2) :=
    ⟨[], ['+'], ['0', '0', '7'], ['.'], ['5', '0'], [], by decide +kernel⟩
  have blanks : SpellsDecimal " 7.5\n".toList (15 / 2) :=
    ⟨[' '], [], ['7'], ['.'], ['5'], ['\n'], by decide +kernel⟩
  have less : SpellsDecimal "7.05".toList (141 / 20) :=
    ⟨[], [], ['7'], ['.'], ['0', '5'], [], by decide +kernel⟩
  have minus : SpellsDecimal "-0".toList 0 := ⟨[], ['-'], ['0'], [], [], [], by decide +kernel⟩
  have noWhole : SpellsDecimal ".00".toList 0 :=
    ⟨[], [], [], ['.'], ['0', '0'], [], by decide +kernel⟩
  have columns : ∀ name ∈ info.keyColumns,
      name = "i" ∨ name = "d" ∨ name = "t" ∨ name = "b" ∨ name = "z" ∨ name = "e" := by
    simp [info, TableInfo.keyColumns]
  have same : ∀ name ∈ info.keyColumns, MeanSame left right .post .pre name := by
    intro name nameMem
    rcases columns name nameMem with rfl | rfl | rfl | rfl | rfl | rfl
    · exact ⟨_, _, .integer 42, rfl, rfl, .int 42, .uint 42⟩
    · exact ⟨_, _, .decimal (15 / 2), rfl, rfl, .decimal plus,
        .decimalBytes rfl (by decide +kernel) blanks⟩
    · exact ⟨_, _, .text "a|b", rfl, rfl, .time rfl rfl "a|b",
        .textBytes rfl rfl (by decide +kernel)⟩
    · exact ⟨_, _, .integer 256, rfl, rfl, .bitBytes rfl [0, 0, 1, 0], .uint 256⟩
    · exact ⟨_, _, .decimal 0, rfl, rfl, .decimalText rfl minus, .decimal noWhole⟩
    · exact ⟨_, _, .choice 2, rfl, rfl, .enum "red" 2, .enum "rouge" 2⟩
  have comparable : ∀ name ∈ info.keyColumns,
      MeanSame left further .post .pre name ∨ HoldDecimals left further .post .pre name := by
    intro name nameMem
    have others := same name nameMem
    rcases columns name nameMem with rfl | rfl | rfl | rfl | rfl | rfl
    · exact .inl others
    · exact .inr ⟨⟨15 / 2, _, rfl, .decimal plus⟩, 141 / 20, _, rfl, .decimalText rfl less⟩
    · exact .inl others
    · exact .inl others
    · exact .inl others
    · exact .inl others
  have leftKey : rowKey left info .post = .ok "42|7.5|a\\|b|256|0|2|" := by decide +kernel
  have furtherKey : rowKey further info .pre = .ok "42|7.05|a\\|b|256|0|2|" := by decide +kernel
  rcases (rowKey_eq_iff_of_denotes info left right .post .pre).1
    fun name nameMem => .inl (same name nameMem) with ⟨key, otherKey, keyEq, rightKey, equal⟩
  rw [leftKey, Except.ok.injEq] at keyEq
  rw [← equal.mpr same, ← keyEq] at rightKey
  rcases (rowKey_eq_iff_of_denotes info left further .post .pre).1 comparable with
    ⟨key, otherKey, keyEq, otherEq, differ⟩
  rw [leftKey, Except.ok.injEq] at keyEq
  rw [furtherKey, Except.ok.injEq] at otherEq
  refine ⟨same, leftKey, rightKey, comparable, furtherKey, ?_⟩
  rw [← differ, ← keyEq, ← otherEq]
  decide

end RowLog
