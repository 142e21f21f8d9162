import RowLog.Proofs.EqualKeys
import RowLog.Proofs.JsonText

/-!
# Rows with one key

The key of a row tells the segments of its key columns, and the segment of a value in a column of a
given type tells the value as far as the type cares for it: decimals as numbers, enumerations and
sets by their codes, bit strings by their low 64 bits, texts that came as bytes by the characters
that can be read from them, and anything else exactly. Some things are not told: null has the
segment of an empty text, bytes that are no text are read as if they held replacement characters,
and what is no decimal literal may be spelled like one.
-/

namespace RowLog

namespace CellValue

/-- Whether two values are encoded in one way, unless one of them is null. -/
inductive IsAlike : CellValue → CellValue → Prop
  | nullLeft (value : CellValue) : IsAlike .null value
  | nullRight (value : CellValue) : IsAlike value .null
  | int (first second : Int64) : IsAlike (.int first) (.int second)
  | uint (first second : UInt64) : IsAlike (.uint first) (.uint second)
  | float (first second : Binary64) : IsAlike (.float first) (.float second)
  | bytes (first second : List UInt8) : IsAlike (.bytes first) (.bytes second)
  | text (first second : String) : IsAlike (.text first) (.text second)
  | decimal (first second : String) : IsAlike (.decimal first) (.decimal second)
  | time (first second : String) : IsAlike (.time first) (.time second)
  | enum (name other : String) (first second : UInt64) :
      IsAlike (.enum name first) (.enum other second)
  | set (names others : String) (first second : UInt64) :
      IsAlike (.set names first) (.set others second)
  | bit (first second : List UInt8) : IsAlike (.bit first) (.bit second)
  | json (first second : Json.Value) : IsAlike (.json first) (.json second)

/-- Whether two decimals have one spelling, and are equal numbers if both are literals. -/
def IsSameDecimal (first second : String) : Prop :=
  canonicalDecimal first.toList = canonicalDecimal second.toList ∧
    (IsDecimalLiteral first.toList → IsDecimalLiteral second.toList →
      literalNumber first.toList = literalNumber second.toList)

/-- Whether the same characters are read from bytes, which are the same if both are well formed. -/
def IsSameText (first second : List UInt8) : Prop :=
  Utf8.repair first = Utf8.repair second ∧
    (Utf8.decode? first ≠ none → Utf8.decode? second ≠ none → first = second)

/-- Whether a value in a column of a given type is written like null. -/
def IsVoidIn (type : ColumnType) : CellValue → Prop
  | .null => True
  | .bytes value => value = [] ∧ type ≠ .bit ∧ type.isDecimal = false
  | .text value => value = "" ∧ type.isDecimal = false
  | .time value => value = ""
  | _ => False

def AgreeAsBytes (type : ColumnType) (first second : List UInt8) : Prop :=
  if type = .bit then bitValue first = bitValue second
  else if type.isDecimal then IsSameDecimal (Utf8.repair first) (Utf8.repair second)
  else if type.isTextual then IsSameText first second
  else first = second

def AgreeAsTexts (type : ColumnType) (first second : String) : Prop :=
  if type.isDecimal then IsSameDecimal first second else first = second

/-- Whether two values in a column of a given type are equal, as far as their key tells. -/
def AgreesIn (type : ColumnType) : CellValue → CellValue → Prop
  | .null, value => value.IsVoidIn type
  | value, .null => value.IsVoidIn type
  | .int first, .int second => first = second
  | .uint first, .uint second => first = second
  | .float first, .float second => first = second
  | .bytes first, .bytes second => AgreeAsBytes type first second
  | .text first, .text second => AgreeAsTexts type first second
  | .decimal first, .decimal second => IsSameDecimal first second
  | .time first, .time second => first = second
  | .enum _ first, .enum _ second => first = second
  | .set _ first, .set _ second => first = second
  | .bit first, .bit second => bitValue first = bitValue second
  | .json first, .json second => first = second
  | _, _ => False

theorem isSameDecimal_of_eq {first second : String}
    (same : canonicalDecimal first.toList = canonicalDecimal second.toList) :
    IsSameDecimal first second := by
  refine ⟨same, ?_⟩
  intro isFirst isSecond
  calc
    literalNumber first.toList = literalNumber (canonicalDecimal first.toList) :=
      (literalNumber_canonicalDecimal isFirst).symm
    _ = literalNumber (canonicalDecimal second.toList) := by rw [same]
    _ = literalNumber second.toList := literalNumber_canonicalDecimal isSecond

theorem isSameText_of_eq {first second : List UInt8}
    (same : Utf8.repair first = Utf8.repair second) : IsSameText first second := by
  refine ⟨same, ?_⟩
  intro firstFormed secondFormed
  rcases Option.ne_none_iff_exists'.mp firstFormed with ⟨firstText, firstEq⟩
  rcases Option.ne_none_iff_exists'.mp secondFormed with ⟨secondText, secondEq⟩
  rw [Utf8.repair, Utf8.repair, firstEq, secondEq, Option.getD_some, Option.getD_some] at same
  rw [← Utf8.encode_of_decode? firstEq, ← Utf8.encode_of_decode? secondEq, same]

variable {type : ColumnType} {first second value : CellValue}

theorem isVoidIn_of_segment_eq_nil (empty : value.segment type = []) : value.IsVoidIn type := by
  cases value with
  | null => trivial
  | int value => exact absurd (List.append_eq_nil_iff.mp empty).2 Nat.toDigits_ne_nil
  | float value =>
      rcases DecimalLayout.exists_writtenNumber_eq plainLayout value with
        ⟨text, textEq, ⟨head, tail, rfl, -⟩, -⟩
      rw [segment, textEq] at empty
      exact absurd (List.append_eq_nil_iff.mp empty).2 (List.cons_ne_nil _ _)
  | bytes value =>
      simp only [segment, bytesSegment] at empty
      split at empty
      · exact absurd empty Nat.toDigits_ne_nil
      · next notBit =>
          split at empty
          · exact absurd empty (canonicalDecimal_ne_nil _)
          · next notDecimal =>
              refine ⟨?_, notBit, by simpa using notDecimal⟩
              split at empty
              · exact Utf8.eq_nil_of_repair (String.toList_eq_nil_iff.mp empty)
              · exact hexBytes_injective empty
  | text value =>
      simp only [segment] at empty
      split at empty
      · exact absurd empty (canonicalDecimal_ne_nil _)
      · next notDecimal =>
          exact ⟨String.toList_eq_nil_iff.mp empty, by simpa using notDecimal⟩
  | decimal value => exact absurd empty (canonicalDecimal_ne_nil _)
  | time value => exact String.toList_eq_nil_iff.mp empty
  | json value =>
      rcases Json.Value.exists_chars_eq value with ⟨head, tail, charsEq, -⟩
      exact absurd (charsEq.symm.trans empty) (List.cons_ne_nil _ _)
  | uint _ | enum _ _ | set _ _ | bit _ => exact absurd empty Nat.toDigits_ne_nil

theorem agreeAsBytes_of_eq {first second : List UInt8}
    (same : bytesSegment type first = bytesSegment type second) :
    AgreeAsBytes type first second := by
  simp only [bytesSegment] at same
  unfold AgreeAsBytes
  by_cases isBit : type = .bit
  · simp only [isBit, if_true] at same ⊢
    exact toDigits_injective same
  · simp only [isBit, if_false] at same ⊢
    split
    · next isDecimal =>
        simp only [isDecimal, if_true] at same
        exact isSameDecimal_of_eq same
    · next notDecimal =>
        simp only [notDecimal] at same
        split
        · next isTextual =>
            simp only [isTextual, if_true] at same
            exact isSameText_of_eq (String.toList_inj.mp same)
        · next notTextual =>
            simp only [notTextual] at same
            exact hexBytes_injective same

theorem agreeAsTexts_of_eq {first second : String}
    (same : (text first).segment type = (text second).segment type) :
    AgreeAsTexts type first second := by
  simp only [segment] at same
  unfold AgreeAsTexts
  split
  · next isDecimal =>
      simp only [isDecimal, if_true] at same
      exact isSameDecimal_of_eq same
  · next notDecimal =>
      simp only [notDecimal] at same
      exact String.toList_inj.mp same

/-- Among values that are alike, the segment tells a value as far as the type cares for it. -/
theorem agreesIn_of_segment_eq (alike : first.IsAlike second)
    (same : first.segment type = second.segment type) : first.AgreesIn type second := by
  cases alike with
  | nullLeft value => exact isVoidIn_of_segment_eq_nil same.symm
  | nullRight value =>
      have void := isVoidIn_of_segment_eq_nil same
      cases first <;> exact void
  | int first second => exact Int64.toInt_inj.mp (Json.intChars_injective same)
  | uint first second => exact UInt64.toNat_inj.mp (toDigits_injective same)
  | float first second => exact DecimalLayout.write_injective plainLayout same
  | bytes first second => exact agreeAsBytes_of_eq same
  | text first second => exact agreeAsTexts_of_eq same
  | decimal first second => exact isSameDecimal_of_eq same
  | time first second => exact String.toList_inj.mp same
  | enum name other first second => exact UInt64.toNat_inj.mp (toDigits_injective same)
  | set names others first second => exact UInt64.toNat_inj.mp (toDigits_injective same)
  | bit first second => exact toDigits_injective same
  | json first second => exact Json.Value.chars_injective same

end CellValue

/-- Two rows with one key have the same segment in every key column. -/
theorem exists_columns_of_rowKey {left right : List Column} {info : TableInfo} {image : Image}
    {key : String} (leftKey : rowKey left info image = .ok key)
    (rightKey : rowKey right info image = .ok key) {name : String}
    (nameMem : name ∈ info.keyColumns) :
    ∃ leftColumn rightColumn, columnNamed? left name = some leftColumn ∧
      columnNamed? right name = some rightColumn ∧
      (leftColumn.image image).segment leftColumn.type =
        (rightColumn.image image).segment rightColumn.type := by
  rcases map_eq_ok_iff.mp leftKey with ⟨segments, leftSegments, keyEq⟩
  rcases map_eq_ok_iff.mp rightKey with ⟨others, rightSegments, otherEq⟩
  have same : segments = others := keyOfSegments_injective (keyEq.trans otherEq.symm)
  subst same
  rcases exists_common_of_forall₂ (keySegments_eq_ok_iff.mp leftSegments)
    (keySegments_eq_ok_iff.mp rightSegments) nameMem with
    ⟨segment, ⟨leftColumn, leftFound, leftEq⟩, rightColumn, rightFound, rightEq⟩
  exact ⟨leftColumn, rightColumn, leftFound, rightFound, leftEq.trans rightEq.symm⟩

/-- If two rows have one key and their key columns have the same types and values that are alike,
then the rows agree in every key column. -/
theorem agreesIn_of_rowKey_eq (left right : List Column) (info : TableInfo) (image : Image)
    (key : String) (leftKey : rowKey left info image = .ok key)
    (rightKey : rowKey right info image = .ok key)
    (alike : ∀ name ∈ info.keyColumns, ∀ leftColumn ∈ columnNamed? left name,
      ∀ rightColumn ∈ columnNamed? right name, leftColumn.type = rightColumn.type ∧
        (leftColumn.image image).IsAlike (rightColumn.image image)) :
    ∀ name ∈ info.keyColumns, ∃ leftColumn rightColumn, columnNamed? left name = some leftColumn ∧
      columnNamed? right name = some rightColumn ∧
      (leftColumn.image image).AgreesIn leftColumn.type (rightColumn.image image) := by
  intro name nameMem
  rcases exists_columns_of_rowKey leftKey rightKey nameMem with
    ⟨leftColumn, rightColumn, leftEq, rightEq, same⟩
  rcases alike name nameMem leftColumn leftEq rightColumn rightEq with ⟨typeEq, valuesAlike⟩
  rw [← typeEq] at same
  exact ⟨leftColumn, rightColumn, leftEq, rightEq,
    CellValue.agreesIn_of_segment_eq valuesAlike same⟩

/-- A decimal in two spellings, a text with a separator, and null against an empty text. -/
theorem agreesIn_of_rowKey_eq_of_spellings :
    let info : TableInfo := ⟨["d", "t", "n"], none, [⟨"u", ["d", "t", "n"]⟩]⟩
    let row (decimal : String) (last : CellValue) : List Column :=
      [⟨"d", .newDecimal, .decimal decimal, none⟩, ⟨"t", .varchar, .text "a|b", none⟩,
        ⟨"n", .varchar, last, none⟩]
    let left := row "+007.50" .null
    let right := row "7.5" (.text "")
    rowKey left info .pre = .ok "7.5|a\\|b||" ∧ rowKey right info .pre = .ok "7.5|a\\|b||" ∧
      ∀ name ∈ info.keyColumns, ∃ leftColumn rightColumn,
        columnNamed? left name = some leftColumn ∧ columnNamed? right name = some rightColumn ∧
        (leftColumn.image .pre).AgreesIn leftColumn.type (rightColumn.image .pre) := by
  intro info row left right
  have leftKey : rowKey left info .pre = .ok "7.5|a\\|b||" := by decide +kernel
  have rightKey : rowKey right info .pre = .ok "7.5|a\\|b||" := by decide +kernel
  refine ⟨leftKey, rightKey, agreesIn_of_rowKey_eq left right info .pre _ leftKey rightKey ?_⟩
  intro name nameMem leftColumn leftEq rightColumn rightEq
  have names : name = "d" ∨ name = "t" ∨ name = "n" := by
    simpa [info, TableInfo.keyColumns] using nameMem
  rcases names with rfl | rfl | rfl
  · rw [← Option.some.inj leftEq, ← Option.some.inj rightEq]
    exact ⟨rfl, .decimal _ _⟩
  · rw [← Option.some.inj leftEq, ← Option.some.inj rightEq]
    exact ⟨rfl, .text _ _⟩
  · rw [← Option.some.inj leftEq, ← Option.some.inj rightEq]
    exact ⟨rfl, .nullLeft _⟩

/-- Rows that differ in their only column and have one key: null and an empty text, bytes that are
no text, and a decimal without digits. -/
theorem exists_one_key_of_unequal :
    let key (type : ColumnType) (value : CellValue) :=
      rowKey [⟨"c", type, value, none⟩] ⟨["c"], none, []⟩ .pre
    (key .varchar .null = .ok "|" ∧ key .varchar (.text "") = .ok "|" ∧
      CellValue.null ≠ .text "") ∧
    (key .varchar (.bytes [255]) = .ok "\ufffd|" ∧ key .varchar (.bytes [254]) = .ok "\ufffd|" ∧
      CellValue.bytes [255] ≠ .bytes [254]) ∧
    (key .newDecimal (.decimal "") = .ok "0|" ∧ key .newDecimal (.decimal "0") = .ok "0|" ∧
      IsDecimalLiteral "0".toList ∧ ¬IsDecimalLiteral "".toList) := by
  intro key
  refine ⟨⟨?_, ?_, by simp⟩, ⟨?_, ?_, by simp⟩, ?_, ?_, by decide, by decide⟩
  all_goals decide +kernel

end RowLog
