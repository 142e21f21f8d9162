import RowLog.Proofs.StoredValues
import RowLog.Row.ColumnCodec

/-!
# Stored columns

A column is stored as the text of a document and read back from it. Whatever its names, texts and
bytes are, it is the same again, provided that it holds no floating-point number and that no JSON
value in it nests too deep to be read. Main statement: `Column.decode?_encode_of_noFloat`.
-/

namespace RowLog

open Json

namespace CellValue

def hasNoFloat : CellValue → Bool
  | .float _ => false
  | .json value => value.everywhere fun inside => !inside.isFloat
  | _ => true

def isOrdered : CellValue → Bool
  | .json value => value.everywhere Value.hasOrderedMembers
  | _ => true

def depth : CellValue → Nat
  | .json value => value.depth
  | _ => 0

/-- Whether a value is read back from its text, by way of a document that is not null. -/
def IsStored (value : CellValue) : Prop :=
  ∃ document, IsTextOf value.chars document ∧ ofDocument? document = some value ∧
    document.isNull = false

theorem ofDocument?_of_kind (kind : String) (content : Document) :
    ofDocument? (.object [(some "kind", .string (some kind)), (some "v", content)]) =
      ofContent? kind content := by
  simp [ofDocument?, Document.fields?, Document.objectFields?, atMostOne, documentsUnder,
    Document.word?, contentComesFirst]

theorem isStored_of_content {value : CellValue} {kind : String} {text : List Char}
    {content : Document} (charsEq : value.chars = kindChars kind text)
    (isText : IsTextOf text content) (read : ofContent? kind content = some value) :
    value.IsStored := by
  refine ⟨_, ?_, (ofDocument?_of_kind kind content).trans read, rfl⟩
  rw [charsEq]
  exact isTextOf_object (.cons ⟨rfl, isTextOf_stringChars kind⟩ (.cons ⟨rfl, isText⟩ .nil))

theorem isStored_of_named {value : CellValue} {kind nameField codeField name : String}
    {code : UInt64}
    (charsEq : value.chars = kindChars kind
      (objectChars [(nameField, stringChars name), (codeField, intChars code.toNat)]))
    (read : ofContent? kind (.object [(some nameField, .string (some name)),
      (some codeField, .number (Numeral.ofInt code.toNat))]) = some value) :
    value.IsStored :=
  isStored_of_content charsEq
    (isTextOf_object (.cons ⟨rfl, isTextOf_stringChars name⟩
      (.cons ⟨rfl, isTextOf_intChars code.toNat⟩ .nil))) read

theorem isStored (value : CellValue) (noFloat : value.hasNoFloat = true)
    (ordered : value.isOrdered = true) (shallow : value.depth ≤ contentLimit) :
    value.IsStored := by
  cases value with
  | null =>
      refine ⟨.object [(some "kind", .string (some "null"))], ?_, ?_, rfl⟩
      · exact isTextOf_object (.cons ⟨rfl, isTextOf_stringChars "null"⟩ .nil)
      · simp [ofDocument?, Document.fields?, Document.objectFields?, atMostOne, documentsUnder,
          Document.word?, Document.items?]
  | int value =>
      exact isStored_of_content rfl (isTextOf_intChars _) (by simp [ofContent?, int64?_ofInt])
  | uint value =>
      exact isStored_of_content rfl (isTextOf_intChars _) (by simp [ofContent?, uint64?_ofInt])
  | float value => simp [hasNoFloat] at noFloat
  | bytes value =>
      exact isStored_of_content rfl (isTextOf_bytesDocument value)
        (by simp [ofContent?, bytes?_bytesDocument])
  | text value =>
      exact isStored_of_content rfl (isTextOf_stringChars value) rfl
  | decimal value =>
      exact isStored_of_content rfl (isTextOf_stringChars value) rfl
  | time value =>
      exact isStored_of_content rfl (isTextOf_stringChars value) rfl
  | enum name code =>
      apply isStored_of_named rfl
      simp [ofContent?, Document.objectFields?, atMostOne, documentsUnder, Document.text?,
        uint64?_ofInt]
  | set names bits =>
      apply isStored_of_named rfl
      simp [ofContent?, Document.objectFields?, atMostOne, documentsUnder, Document.text?,
        uint64?_ofInt]
  | bit value =>
      exact isStored_of_content rfl (isTextOf_bytesDocument value)
        (by simp [ofContent?, bytes?_bytesDocument])
  | json value =>
      rcases value.exists_isStoredAs contentLimit noFloat ordered shallow with ⟨document, stored⟩
      exact isStored_of_content rfl stored.isTextOf
        (by simp [ofContent?, stored.isSound, stored.ofDocument?_eq])

/-- What is read of a name and a number has no JSON value in it. -/
theorem ne_json_of_named {make : String → UInt64 → CellValue} {fields : List (Option Document)}
    {value : Value} (plain : ∀ name code, make name code ≠ .json value) :
    (match fields with
      | [some name, some code] => do return make (← name.text?) (← code.uint64?)
      | _ => none) ≠ some (.json value) := by
  split
  · intro read
    simp only [Option.bind_eq_bind, Option.bind_eq_some_iff] at read
    rcases read with ⟨name, -, code, -, same⟩
    exact plain name code (Option.some.inj same)
  · simp

theorem isOrdered_of_ofContent? {kind : String} {content : Document} {value : CellValue}
    (read : ofContent? kind content = some value) : value.isOrdered = true := by
  cases value with
  | json value =>
      unfold ofContent? at read
      split at read
      case h_9 =>
        rcases Option.bind_eq_some_iff.mp read with ⟨fields, -, read⟩
        exact absurd read (ne_json_of_named fun _ _ => by simp)
      case h_10 =>
        rcases Option.bind_eq_some_iff.mp read with ⟨fields, -, read⟩
        exact absurd read (ne_json_of_named fun _ _ => by simp)
      case h_12 =>
        split at read
        · rcases Option.map_eq_some_iff.mp read with ⟨inside, insideRead, same⟩
          rw [CellValue.json.injEq] at same
          exact same ▸ Value.ordered_of_ofDocument? content inside insideRead
        · contradiction
      all_goals simp at read
  | _ => rfl

theorem isOrdered_of_ofDocument? {document : Document} {value : CellValue}
    (read : ofDocument? document = some value) : value.isOrdered = true := by
  simp only [ofDocument?, Option.bind_eq_bind, Option.bind_eq_some_iff] at read
  rcases read with ⟨fields, -, read⟩
  split at read
  · simp only [Option.bind_eq_some_iff] at read
    rcases read with ⟨kind, -, read⟩
    split at read
    · split at read
      · contradiction
      · exact isOrdered_of_ofContent? read
    · split at read
      · exact Option.some.inj read ▸ rfl
      · contradiction
  · contradiction

end CellValue

namespace Column

/-- The values that a column carries, before and after the change. -/
def values (column : Column) : List CellValue :=
  column.value :: column.changed.toList

theorem isOrdered_of_changedOfDocument? {document : Option Document} {value : CellValue}
    (read : changedOfDocument? document = some (some value)) : value.isOrdered = true := by
  unfold changedOfDocument? at read
  split at read
  · simp at read
  · split at read
    · simp at read
    · rcases Option.map_eq_some_iff.mp read with ⟨inside, insideRead, same⟩
      exact Option.some.inj same ▸ CellValue.isOrdered_of_ofDocument? insideRead

/-- In a column that is read, the members of every object are in order. -/
theorem isOrdered_of_decode? {bytes : List UInt8} {column : Column}
    (decoded : decode? bytes = some column) :
    ∀ value ∈ column.values, value.isOrdered = true := by
  rcases Option.bind_eq_some_iff.mp decoded with ⟨document, -, read⟩
  simp only [ofDocument?, Option.bind_eq_bind, Option.bind_eq_some_iff] at read
  rcases read with ⟨fields, -, read⟩
  split at read
  · simp only [Option.bind_eq_some_iff, Option.pure_def, Option.some.injEq] at read
    rcases read with ⟨name, -, word, -, type, -, value, valueRead, changed, changedRead, rfl⟩
    intro other otherMem
    rcases List.mem_cons.mp otherMem with rfl | inChanged
    · exact CellValue.isOrdered_of_ofDocument? valueRead
    · have changedEq : changed = some other := Option.mem_toList.mp inChanged
      rw [changedEq] at changedRead
      exact isOrdered_of_changedOfDocument? changedRead
  · contradiction

/-- A column without floating-point numbers, in which no JSON value nests more than 125 levels deep,
is read back as it was written. The members of an object are in the order of their names, as they
are in all that is read (`isOrdered_of_decode?`). -/
theorem decode?_encode_of_noFloat (column : Column)
    (noFloat : ∀ value ∈ column.values, value.hasNoFloat = true)
    (ordered : ∀ value ∈ column.values, value.isOrdered = true)
    (shallow : ∀ value ∈ column.values, value.depth ≤ 125) :
    decode? column.encode = some column := by
  have each : ∀ value ∈ column.values, value.IsStored := fun value valueMem =>
    value.isStored (noFloat value valueMem) (ordered value valueMem) (shallow value valueMem)
  rcases column with ⟨name, type, value, changed⟩
  rcases each value (by simp [values]) with ⟨document, isText, read, -⟩
  have type? := ColumnType.ofWord?_word type
  cases changed with
  | none =>
      have isText : IsTextOf (chars ⟨name, type, value, none⟩)
          (.object [(some "name", .string (some name)), (some "tp", .string (some type.word)),
            (some "value", document)]) :=
        isTextOf_object (.cons ⟨rfl, isTextOf_stringChars name⟩
          (.cons ⟨rfl, isTextOf_stringChars type.word⟩ (.cons ⟨rfl, isText⟩ .nil)))
      rw [decode?, encode, parse_of_isTextOf isText, Option.bind_some]
      simp [ofDocument?, Document.fields?, Document.objectFields?, atMostOne, documentsUnder,
        Document.text?, Document.word?, changedOfDocument?, read, type?]
  | some changed =>
      rcases each changed (by simp [values]) with
        ⟨changedDocument, changedText, changedRead, notNull⟩
      have isText : IsTextOf (chars ⟨name, type, value, some changed⟩)
          (.object [(some "name", .string (some name)), (some "tp", .string (some type.word)),
            (some "value", document), (some "changed_value", changedDocument)]) :=
        isTextOf_object (.cons ⟨rfl, isTextOf_stringChars name⟩
          (.cons ⟨rfl, isTextOf_stringChars type.word⟩ (.cons ⟨rfl, isText⟩
            (.cons ⟨rfl, changedText⟩ .nil))))
      rw [decode?, encode, parse_of_isTextOf isText, Option.bind_some]
      simp [ofDocument?, Document.fields?, Document.objectFields?, atMostOne, documentsUnder,
        Document.text?, Document.word?, changedOfDocument?, read, type?, notNull, changedRead]

/-- The JSON value of an update, after a value that was null. -/
theorem decode?_encode_of_nested_update :
    let nested : Json.Value := .object [("\x07", .array [.integer ⟨-9223372036854775808, by decide,
      by decide⟩, .object []]), ("é", .null)]
    let column : Column := ⟨"the \"name\"", .json, .null, some (.json nested)⟩
    (∀ value ∈ column.values, value.hasNoFloat = true) ∧
      (∀ value ∈ column.values, value.isOrdered = true) ∧
      (∀ value ∈ column.values, value.depth ≤ 125) ∧ decode? column.encode = some column := by
  intro nested column
  have noFloat : ∀ value ∈ column.values, value.hasNoFloat = true := by decide
  have ordered : ∀ value ∈ column.values, value.isOrdered = true := by decide
  have shallow : ∀ value ∈ column.values, value.depth ≤ 125 := by decide
  exact ⟨noFloat, ordered, shallow, decode?_encode_of_noFloat column noFloat ordered shallow⟩

end Column

end RowLog
