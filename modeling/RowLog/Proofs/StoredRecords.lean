import RowLog.Log.RecordCodec
import RowLog.Proofs.StoredValues

/-!
# Stored records

A record of a log is stored as the text of a document and read back from it. The document nests five
levels deep at most, and all its numbers are integers of 64 bits; so it may be read in full,
whatever the record holds. Main statement: `Record.decode?_encode_record`.
-/

namespace RowLog

open Json

theorem isSound_bytesDocument {limit : Nat} (positive : 0 < limit) (bytes : List UInt8) :
    (bytesDocument bytes).isSound limit = true := by
  have each : ∀ document ∈ bytes.map fun byte => Document.number (Numeral.ofInt byte.toNat),
      document.isSound (limit - 1) = true := by
    intro document documentMem
    rcases List.mem_map.mp documentMem with ⟨byte, -, rfl⟩
    have small := byte.toNat_lt
    rw [Document.isSound, integer?_ofInt (by omega) (by omega)]
    rfl
  rw [bytesDocument, Document.isSound, areSound_of_forall each]
  simp [positive]

namespace RowEvent

/-- The document of a row event. -/
def document (event : RowEvent) : Document :=
  .object
    [(some "schema", .string (some event.schema)), (some "table", .string (some event.table)),
      (some "kind", .string (some event.kind.word)),
      (some "columns", .array (event.columns.map bytesDocument))]

theorem isTextOf_document (event : RowEvent) : IsTextOf event.chars event.document := by
  have columns : IsTextOf (arrayChars (event.columns.map CellValue.byteListChars))
      (.array (event.columns.map bytesDocument)) :=
    isTextOf_array_map fun column _ => isTextOf_bytesDocument column
  exact isTextOf_object (.cons ⟨rfl, isTextOf_stringChars event.schema⟩
    (.cons ⟨rfl, isTextOf_stringChars event.table⟩
      (.cons ⟨rfl, isTextOf_stringChars event.kind.word⟩ (.cons ⟨rfl, columns⟩ .nil))))

theorem isSound_document (event : RowEvent) {limit : Nat} (deep : 2 < limit) :
    event.document.isSound limit = true := by
  have columns : Document.areSound (limit - 1 - 1) (event.columns.map bytesDocument) = true := by
    apply areSound_of_forall
    intro document documentMem
    rcases List.mem_map.mp documentMem with ⟨column, -, rfl⟩
    exact isSound_bytesDocument (by omega) column
  have outer : 0 < limit := by omega
  have inner : 0 < limit - 1 := by omega
  simp [document, Document.isSound, Document.membersAreSound, columns, outer, inner]

theorem ofDocument?_document (event : RowEvent) : ofDocument? event.document = some event := by
  have columns : (event.columns.map bytesDocument).mapM Document.bytes? = some event.columns :=
    mapM_map_eq_some bytes?_bytesDocument event.columns
  have kind : EventKind.ofDocument? (.string (some event.kind.word)) = some event.kind :=
    EventKind.ofWord?_word event.kind
  simp [ofDocument?, document, Document.fields?, Document.objectFields?, atMostOne, documentsUnder,
    Document.text?, Document.list?, Document.items?, kind, columns]

end RowEvent

namespace Record

/-- The document of a record. -/
def document : Record → Document
  | .schemaChange change =>
      .object
        [(some "type", .string (some "ddl")),
          (some "commit_ts", .number (Numeral.ofInt change.stamp.toInt)),
          (some "statement", .string (some change.statement))]
  | .rowBatch batch =>
      .object
        [(some "type", .string (some "dml")),
          (some "commit_ts", .number (Numeral.ofInt batch.stamp.toInt)),
          (some "events", .array (batch.events.map RowEvent.document))]

theorem isTextOf_document (record : Record) : IsTextOf record.chars record.document := by
  cases record with
  | schemaChange change =>
      exact isTextOf_object (.cons ⟨rfl, isTextOf_stringChars "ddl"⟩
        (.cons ⟨rfl, isTextOf_intChars change.stamp.toInt⟩
          (.cons ⟨rfl, isTextOf_stringChars change.statement⟩ .nil)))
  | rowBatch batch =>
      have events : IsTextOf (arrayChars (batch.events.map RowEvent.chars))
          (.array (batch.events.map RowEvent.document)) :=
        isTextOf_array_map fun event _ => event.isTextOf_document
      exact isTextOf_object (.cons ⟨rfl, isTextOf_stringChars "dml"⟩
        (.cons ⟨rfl, isTextOf_intChars batch.stamp.toInt⟩ (.cons ⟨rfl, events⟩ .nil)))

theorem isSound_document (record : Record) : record.document.isSound nestingLimit = true := by
  have stamp (value : Timestamp) : (Numeral.ofInt value.toInt).integer? = some value.toInt := by
    have lower := Int64.le_toInt value
    have upper := Int64.toInt_lt value
    exact integer?_ofInt (by omega) (by omega)
  cases record with
  | schemaChange change =>
      simp [document, Document.isSound, Document.membersAreSound, stamp, nestingLimit]
  | rowBatch batch =>
      have events : Document.areSound 125 (batch.events.map RowEvent.document) = true := by
        apply areSound_of_forall
        intro document documentMem
        rcases List.mem_map.mp documentMem with ⟨event, -, rfl⟩
        exact event.isSound_document (by decide)
      simp [document, Document.isSound, Document.membersAreSound, stamp, events, nestingLimit]

theorem ofDocument?_document (record : Record) : ofDocument? record.document = some record := by
  have sound := record.isSound_document
  cases record with
  | schemaChange change =>
      rw [ofDocument?, sound]
      simp [document, typeWord?, Document.fields?, Document.objectFields?, atMostOne,
        documentsUnder, Document.text?, int64?_ofInt]
  | rowBatch batch =>
      have events : (batch.events.map RowEvent.document).mapM RowEvent.ofDocument? =
          some batch.events :=
        mapM_map_eq_some RowEvent.ofDocument?_document batch.events
      rw [ofDocument?, sound]
      simp [document, typeWord?, Document.fields?, Document.objectFields?, atMostOne,
        documentsUnder, Document.text?, Document.list?, Document.items?, int64?_ofInt, events]

/-- Every record is read back as it was written. -/
theorem decode?_encode_record (record : Record) : decode? record.encode = some record := by
  rw [decode?, encode, parse_of_isTextOf record.isTextOf_document, Option.bind_some,
    ofDocument?_document]

end Record

end RowLog
