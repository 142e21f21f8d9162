import RowLog.Log.Record
import RowLog.Row.ColumnCodec

/-!
# Records as documents

A record is stored as the text of a JSON record whose field `type` says which kind it is. Main
definitions: `Record.encode` and `Record.decode?`. As the type may come anywhere in an object, a
record is read in full before it is known what it is; so all of it has to be sound.
-/

namespace RowLog

open Json

namespace EventKind

def word : EventKind → String
  | .insert => "Insert"
  | .update => "Update"
  | .delete => "Delete"

def ofWord? : String → Option EventKind
  | "Insert" => some .insert
  | "Update" => some .update
  | "Delete" => some .delete
  | _ => none

@[simp]
theorem ofWord?_word (kind : EventKind) : ofWord? kind.word = some kind := by
  cases kind <;> rfl

/-- The kind of event that a document names. An empty object counts as null in it. -/
def ofDocument? : Document → Option EventKind
  | .object [(some name, .object [])] => ofWord? name
  | document => document.word?.bind ofWord?

end EventKind

namespace RowEvent

def chars (event : RowEvent) : List Char :=
  objectChars
    [("schema", stringChars event.schema), ("table", stringChars event.table),
      ("kind", stringChars event.kind.word),
      ("columns", arrayChars (event.columns.map CellValue.byteListChars))]

def ofDocument? (document : Document) : Option RowEvent := do
  let [some schema, some table, some kind, some columns] ←
    document.fields? ["schema", "table", "kind", "columns"] | none
  return {
    schema := ← schema.text?
    table := ← table.text?
    kind := ← EventKind.ofDocument? kind
    columns := ← columns.list? Document.bytes? }

end RowEvent

namespace Record

def chars : Record → List Char
  | .schemaChange change =>
      objectChars
        [("type", stringChars "ddl"), ("commit_ts", intChars change.stamp.toInt),
          ("statement", stringChars change.statement)]
  | .rowBatch batch =>
      objectChars
        [("type", stringChars "dml"), ("commit_ts", intChars batch.stamp.toInt),
          ("events", arrayChars (batch.events.map RowEvent.chars))]

def encode (record : Record) : List UInt8 :=
  Utf8.encodeChars record.chars

/-- The text in the first field of a record. -/
def typeWord? (document : Document) : Option String := do
  match document with
  | .array (word :: _) => word.text?
  | .object members => (← atMostOne "type" members).bind Document.text?
  | _ => none

def ofDocument? (document : Document) : Option Record := do
  if !document.isSound nestingLimit then none
  else
    match ← typeWord? document with
    | "ddl" =>
        let [some _, some stamp, some statement] ←
          document.fields? ["type", "commit_ts", "statement"] | none
        return .schemaChange ⟨← stamp.int64?, ← statement.text?⟩
    | "dml" =>
        let [some _, some stamp, some events] ←
          document.fields? ["type", "commit_ts", "events"] | none
        return .rowBatch ⟨← stamp.int64?, ← events.list? RowEvent.ofDocument?⟩
    | _ => none

/-- The record whose text the bytes are, if they are the text of one. -/
def decode? (bytes : List UInt8) : Option Record :=
  (Document.parse bytes).bind ofDocument?

end Record

end RowLog
