import RowLog.Json.Fields
import RowLog.Row.Column

/-!
# Columns as documents

A column is stored as the text of a JSON record with the fields `name`, `tp`, `value` and, if the
change gave it one, `changed_value`. A value is a record of its kind, `kind`, and its content, `v`;
the null value has no content. Main definitions: `Column.encode` and `Column.decode?`.
-/

namespace RowLog

open Json

/-- How deep arrays and objects may lie within each other in a document that is read in full. -/
def nestingLimit : Nat := 127

/-- The levels that are left for the content of a value: a column and its value use two. -/
def contentLimit : Nat := nestingLimit - 2

namespace CellValue

def byteListChars (bytes : List UInt8) : List Char :=
  arrayChars (bytes.map fun byte => Nat.toDigits 10 byte.toNat)

def kindChars (kind : String) (content : List Char) : List Char :=
  objectChars [("kind", stringChars kind), ("v", content)]

def chars : CellValue → List Char
  | .null => objectChars [("kind", stringChars "null")]
  | .int value => kindChars "int" (intChars value.toInt)
  | .uint value => kindChars "uint" (intChars value.toNat)
  | .float value => kindChars "float" (jsonLayout.write value)
  | .bytes value => kindChars "bytes" (byteListChars value)
  | .text value => kindChars "text" (stringChars value)
  | .decimal value => kindChars "decimal" (stringChars value)
  | .time value => kindChars "time" (stringChars value)
  | .enum name code =>
      kindChars "enum" (objectChars [("name", stringChars name), ("code", intChars code.toNat)])
  | .set names bits =>
      kindChars "set" (objectChars [("names", stringChars names), ("bits", intChars bits.toNat)])
  | .bit value => kindChars "bit" (byteListChars value)
  | .json value => kindChars "json" value.chars

def ofContent? (kind : String) (content : Document) : Option CellValue :=
  match kind with
  | "null" => if content.isNull then some .null else none
  | "int" => content.int64?.map .int
  | "uint" => content.uint64?.map .uint
  | "float" => content.binary64?.map .float
  | "bytes" => content.bytes?.map .bytes
  | "text" => content.text?.map .text
  | "decimal" => content.text?.map .decimal
  | "time" => content.text?.map .time
  | "enum" => do
      let [some name, some code] ← content.objectFields? ["name", "code"] | none
      return .enum (← name.text?) (← code.uint64?)
  | "set" => do
      let [some names, some bits] ← content.objectFields? ["names", "bits"] | none
      return .set (← names.text?) (← bits.uint64?)
  | "bit" => content.bytes?.map .bit
  | "json" => if content.isSound contentLimit then (Value.ofDocument? content).map .json else none
  | _ => none

def contentComesFirst : Document → Bool
  | .object members =>
      (members.find? fun member => member.1 == some "kind" || member.1 == some "v").any fun member =>
        member.1 == some "v"
  | _ => false

/-- The value that a document writes. Content that comes before its kind is read in full before it
is known what it should be, so all of it has to be sound. In an array, content is never left out. -/
def ofDocument? (document : Document) : Option CellValue := do
  let [some kind, content] ← document.fields? ["kind", "v"] | none
  let kind ← kind.word?
  match content with
  | some content =>
      if contentComesFirst document && !content.isSound contentLimit then none
      else ofContent? kind content
  | none => if kind == "null" && document.items?.isNone then some .null else none

end CellValue

namespace Column

def chars (column : Column) : List Char :=
  objectChars <|
    [("name", stringChars column.name), ("tp", stringChars column.type.word),
      ("value", column.value.chars)] ++
    match column.changed with
    | some changed => [("changed_value", changed.chars)]
    | none => []

def encode (column : Column) : List UInt8 :=
  Utf8.encodeChars column.chars

/-- The value after a change, where null stands for none. -/
def changedOfDocument? : Option Document → Option (Option CellValue)
  | none => some none
  | some document =>
      if document.isNull then some none else (CellValue.ofDocument? document).map some

def ofDocument? (document : Document) : Option Column := do
  let [some name, some type, some value, changed] ←
    document.fields? ["name", "tp", "value", "changed_value"] | none
  return {
    name := ← name.text?
    type := ← ColumnType.ofWord? (← type.word?)
    value := ← CellValue.ofDocument? value
    changed := ← changedOfDocument? changed }

/-- The column whose text the bytes are, if they are the text of one. -/
def decode? (bytes : List UInt8) : Option Column :=
  (Document.parse bytes).bind ofDocument?

end Column

/-- The columns of a row, of which none may be malformed. -/
def decodeRow (raw : List (List UInt8)) : Except RowError (List Column) :=
  match raw.mapM Column.decode? with
  | some columns => .ok columns
  | none => .error .malformedColumn

end RowLog
