import RowLog.Proofs.EqualKeys
import RowLog.Proofs.WrittenNumbers

/-!
# Reading a key back

The key of a row is split at the separators that are not escaped, and when the escapes are undone
in its pieces, they are the segments that it was made of. Only texts are escaped: a number, a bit
string, the number of a name and hexadecimal digits have no separator and no backslash, so it does
not matter that they are written as they are. Main statement: `keySegments_eq_of_rowKey_eq`.
-/

namespace RowLog

/-- Puts characters in front of the first piece. -/
def extendFirst (characters : List Char) : List (List Char) → List (List Char)
  | [] => [characters]
  | first :: rest => (characters ++ first) :: rest

/-- The pieces of a key, each up to a separator that is not escaped. -/
def splitKey : List Char → List (List Char)
  | [] => []
  | '\\' :: character :: rest => extendFirst ['\\', character] (splitKey rest)
  | character :: rest =>
      if character == keySeparator then [] :: splitKey rest
      else extendFirst [character] (splitKey rest)

def unescapeSegment : List Char → List Char
  | [] => []
  | '\\' :: character :: rest => character :: unescapeSegment rest
  | character :: rest => character :: unescapeSegment rest

section

variable {character : Char}

def IsKeyMark (character : Char) : Prop :=
  character = keySeparator ∨ character = '\\'

instance : DecidablePred IsKeyMark :=
  fun _ => inferInstanceAs (Decidable (_ ∨ _))

theorem escapeSegment_cons_mark (isMark : IsKeyMark character) (segment : List Char) :
    escapeSegment (character :: segment) = '\\' :: character :: escapeSegment segment := by
  rcases isMark with rfl | rfl <;> rfl

theorem escapeSegment_cons (noMark : ¬IsKeyMark character) (segment : List Char) :
    escapeSegment (character :: segment) = character :: escapeSegment segment := by
  rw [IsKeyMark, not_or] at noMark
  simp [escapeSegment, noMark]

theorem escapeSegment_eq_self {segment : List Char}
    (plain : ∀ character ∈ segment, ¬IsKeyMark character) : escapeSegment segment = segment := by
  induction segment with
  | nil => rfl
  | cons character segment ih =>
      rw [escapeSegment_cons (plain character (by simp)),
        ih fun other otherMem => plain other (by simp [otherMem])]

theorem splitKey_cons (noMark : ¬IsKeyMark character) (rest : List Char) :
    splitKey (character :: rest) = extendFirst [character] (splitKey rest) := by
  rw [IsKeyMark, not_or] at noMark
  rw [splitKey]
  · simp [noMark]
  · intro second others backslash
    exact absurd backslash noMark.2

theorem splitKey_append (segment rest : List Char) :
    splitKey (escapeSegment segment ++ keySeparator :: rest) =
      escapeSegment segment :: splitKey rest := by
  induction segment with
  | nil => rfl
  | cons character segment ih =>
      by_cases isMark : IsKeyMark character
      · rw [escapeSegment_cons_mark isMark, List.cons_append, List.cons_append, splitKey, ih]
        rfl
      · rw [escapeSegment_cons isMark, List.cons_append, splitKey_cons isMark, ih]
        rfl

theorem splitKey_keyOfSegments (segments : List (List Char)) :
    splitKey (keyOfSegments segments).toList = segments.map escapeSegment := by
  rw [keyOfSegments, String.toList_ofList]
  induction segments with
  | nil => rfl
  | cons segment segments ih =>
      rw [List.flatMap_cons, List.append_assoc, List.singleton_append, splitKey_append, ih]
      rfl

theorem unescapeSegment_cons (noMark : ¬IsKeyMark character) (rest : List Char) :
    unescapeSegment (character :: rest) = character :: unescapeSegment rest := by
  rw [IsKeyMark, not_or] at noMark
  rw [unescapeSegment]
  intro second others backslash
  exact absurd backslash noMark.2

theorem unescapeSegment_escapeSegment (segment : List Char) :
    unescapeSegment (escapeSegment segment) = segment := by
  induction segment with
  | nil => rfl
  | cons character segment ih =>
      by_cases isMark : IsKeyMark character
      · rw [escapeSegment_cons_mark isMark, unescapeSegment, ih]
      · rw [escapeSegment_cons isMark, unescapeSegment_cons isMark, ih]

end

section

variable {character : Char} {bytes : List UInt8}

theorem notKeyMark_of_isDigit (isDigit : character.isDigit = true) : ¬IsKeyMark character := by
  rintro (rfl | rfl) <;> contradiction

theorem notKeyMark_of_isNumberChar (isNumber : DecimalLayout.IsNumberChar character) :
    ¬IsKeyMark character := by
  rcases isNumber with isDigit | isSign
  · exact notKeyMark_of_isDigit isDigit
  · simp only [List.mem_cons, List.not_mem_nil, or_false] at isSign
    rcases isSign with rfl | rfl | rfl | rfl <;> decide

theorem notKeyMark_of_mem_toDigits {value : Nat}
    (characterMem : character ∈ Nat.toDigits 10 value) : ¬IsKeyMark character :=
  notKeyMark_of_isDigit (isDigits_toDigits value character characterMem)

theorem notKeyMark_of_mem_intChars {value : Int} (characterMem : character ∈ Json.intChars value) :
    ¬IsKeyMark character := by
  rcases List.mem_append.mp characterMem with signMem | digitMem
  · split at signMem
    · rw [List.mem_singleton.mp signMem]
      decide
    · simp at signMem
  · exact notKeyMark_of_mem_toDigits digitMem

theorem notKeyMark_of_mem_hexBytes (characterMem : character ∈ hexBytes bytes) :
    ¬IsKeyMark character := by
  have digits : ∀ value < 16, ¬IsKeyMark (Nat.digitChar value) := by decide
  rcases List.mem_flatMap.mp characterMem with ⟨byte, _, digitMem⟩
  have byteLt := byte.toNat_lt
  simp only [List.mem_cons, List.not_mem_nil, or_false] at digitMem
  rcases digitMem with rfl | rfl
  · exact digits _ (by omega)
  · exact digits _ (by omega)

end

namespace CellValue

/-- Whether a value in a column of a given type is written as a text, which may have any
characters. -/
def isText (type : ColumnType) : CellValue → Bool
  | .text _ | .decimal _ | .time _ | .json _ => true
  | .bytes _ => type ≠ .bit && (type.isDecimal || type.isTextual)
  | _ => false

/-- What stands for a value in a key. Only texts are escaped. -/
def keyText (type : ColumnType) (value : CellValue) : List Char :=
  if value.isText type then escapeSegment (value.segment type) else value.segment type

theorem notKeyMark_of_mem_segment {type : ColumnType} {value : CellValue}
    (noText : value.isText type = false) {character : Char}
    (characterMem : character ∈ value.segment type) : ¬IsKeyMark character := by
  cases value with
  | null => simp [segment] at characterMem
  | int value => exact notKeyMark_of_mem_intChars characterMem
  | uint value => exact notKeyMark_of_mem_toDigits characterMem
  | float value => exact notKeyMark_of_isNumberChar (DecimalLayout.mem_write _ value _ characterMem)
  | bytes bytes =>
      rw [segment, bytesSegment] at characterMem
      split at characterMem
      · exact notKeyMark_of_mem_toDigits characterMem
      · next notBit =>
          simp only [isText, ne_eq, notBit, not_false_eq_true, decide_true, Bool.true_and,
            Bool.or_eq_false_iff] at noText
          rw [noText.1, noText.2] at characterMem
          exact notKeyMark_of_mem_hexBytes characterMem
  | text value => contradiction
  | decimal value => contradiction
  | time value => contradiction
  | enum name code => exact notKeyMark_of_mem_toDigits characterMem
  | set names bits => exact notKeyMark_of_mem_toDigits characterMem
  | bit value => exact notKeyMark_of_mem_toDigits characterMem
  | json value => contradiction

theorem escapeSegment_segment (type : ColumnType) (value : CellValue) :
    escapeSegment (value.segment type) = value.keyText type := by
  rw [keyText]
  split
  · rfl
  · next noText =>
      rw [Bool.not_eq_true] at noText
      exact escapeSegment_eq_self fun _ characterMem =>
        notKeyMark_of_mem_segment noText characterMem

end CellValue

/-- What stands in a key for the key columns of a row, in their order. -/
def keyTexts (columns : List Column) (info : TableInfo) (image : Image) :
    Except RowError (List (List Char)) :=
  info.keyColumns.mapM fun name =>
    match columnNamed? columns name with
    | some column => .ok ((column.image image).keyText column.type)
    | none => .error (.missingKeyColumn name)

section

variable {columns : List Column} {info : TableInfo} {image : Image}

theorem keyTexts_of_keySegments {segments : List (List Char)}
    (found : keySegments columns info image = .ok segments) :
    keyTexts columns info image = .ok (segments.map escapeSegment) := by
  rw [keyTexts, mapM_eq_ok_iff, List.forall₂_map_right_iff]
  refine (keySegments_eq_ok_iff.mp found).imp ?_
  rintro name segment ⟨column, columnEq, segmentEq⟩
  simp only [columnEq, ← segmentEq, CellValue.escapeSegment_segment]

/-- A key is split into what stands in it for each key column, and without the escapes these are the
segments of the row. -/
theorem keyTexts_and_keySegments_of_rowKey {key : String}
    (found : rowKey columns info image = .ok key) :
    keyTexts columns info image = .ok (splitKey key.toList) ∧
      keySegments columns info image = .ok ((splitKey key.toList).map unescapeSegment) := by
  rcases map_eq_ok_iff.mp found with ⟨segments, segmentsEq, rfl⟩
  have restored : (segments.map escapeSegment).map unescapeSegment = segments := by
    simp [Function.comp_def, unescapeSegment_escapeSegment]
  rw [splitKey_keyOfSegments, restored]
  exact ⟨keyTexts_of_keySegments segmentsEq, segmentsEq⟩

end

/-- Rows with one key have the same segments, one for each key column: those that are read back from
the key. -/
theorem keySegments_eq_of_rowKey_eq (info : TableInfo) (left right : List Column)
    (image other : Image) (key : String) (leftKey : rowKey left info image = .ok key)
    (rightKey : rowKey right info other = .ok key) :
    ∃ texts, splitKey key.toList = texts ∧ texts.length = info.keyColumns.length ∧
      keyTexts left info image = .ok texts ∧ keyTexts right info other = .ok texts ∧
      keySegments left info image = .ok (texts.map unescapeSegment) ∧
      keySegments right info other = .ok (texts.map unescapeSegment) := by
  rcases keyTexts_and_keySegments_of_rowKey leftKey with ⟨leftTexts, leftSegments⟩
  rcases keyTexts_and_keySegments_of_rowKey rightKey with ⟨rightTexts, rightSegments⟩
  have lengths := (mapM_eq_ok_iff.mp leftTexts).length_eq
  exact ⟨_, rfl, lengths.symm, leftTexts, rightTexts, leftSegments, rightSegments⟩

/-- Texts with separators and backslashes, as themselves and as bytes; null and an empty text; a
number with and without a sign; bytes in hexadecimal digits and the same digits as a text. -/
theorem keySegments_eq_of_rowKey_eq_of_mixed_values :
    let info : TableInfo := ⟨["t", "n", "i", "b"], none, []⟩
    let left : List Column := [⟨"t", .varchar, .text "a|\\", none⟩, ⟨"n", .long, .null, none⟩,
      ⟨"i", .long, .int 42, none⟩, ⟨"b", .blob, .bytes [222, 173], none⟩]
    let right : List Column := [⟨"t", .varchar, .bytes [97, 124, 92], none⟩,
      ⟨"n", .varchar, .text "", none⟩, ⟨"i", .longLong, .null, some (.uint 42)⟩,
      ⟨"b", .varchar, .text "dead", none⟩]
    let key := "a\\|\\\\||42|dead|"
    rowKey left info .pre = .ok key ∧ rowKey right info .post = .ok key ∧
      ∃ texts, splitKey key.toList = texts ∧
        keySegments left info .pre = .ok (texts.map unescapeSegment) ∧
        keySegments right info .post = .ok (texts.map unescapeSegment) ∧
        texts.map unescapeSegment = [['a', '|', '\\'], [], ['4', '2'], ['d', 'e', 'a', 'd']] := by
  intro info left right key
  have leftKey : rowKey left info .pre = .ok key := by decide +kernel
  have rightKey : rowKey right info .post = .ok key := by decide +kernel
  rcases keySegments_eq_of_rowKey_eq info left right .pre .post key leftKey rightKey with
    ⟨texts, rfl, _, _, _, leftSegments, rightSegments⟩
  exact ⟨leftKey, rightKey, _, rfl, leftSegments, rightSegments, by decide +kernel⟩

end RowLog
