/-!
# Records of a change log

A log is a list of records, each with the timestamp of its commit. A record is either a change of
the schema, by its statement, or a batch of row events.
-/

namespace RowLog

/-- The time of a commit; the order of a log is the order of these. -/
abbrev Timestamp := Int64

/-- What happened to a row. -/
inductive EventKind
  | insert
  | update
  | delete
  deriving DecidableEq

/-- What happened to one row, with its columns as the log stores them. -/
structure RowEvent where
  schema : String
  table : String
  kind : EventKind
  columns : List (List UInt8)
  deriving DecidableEq

/-- A statement that changes the schema. -/
structure SchemaChange where
  stamp : Timestamp
  statement : String
  deriving DecidableEq

/-- Row events of one commit. -/
structure RowBatch where
  stamp : Timestamp
  events : List RowEvent
  deriving DecidableEq

/-- One record of a log. -/
inductive Record
  | schemaChange (change : SchemaChange)
  | rowBatch (batch : RowBatch)
  deriving DecidableEq

namespace Record

def stamp : Record → Timestamp
  | .schemaChange change => change.stamp
  | .rowBatch batch => batch.stamp

def events : Record → List RowEvent
  | .schemaChange _ => []
  | .rowBatch batch => batch.events

def isChange : Record → Bool
  | .schemaChange _ => true
  | .rowBatch _ => false

end Record

end RowLog
