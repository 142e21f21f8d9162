import RowLog.Log.Record
import RowLog.Row.Key

/-!
# Net events

A `NetEvent` is what happened to one row over a stretch of the log: at first one event of the log,
later the net effect of several. `NetEvent.merge` folds a later event of the same row into it. For
each pair of kinds the outcome is a `Transition`; a pair that cannot occur in an orderly log leaves
the event as it is.
-/

namespace RowLog

/-- The net effect of one or more events of one row. -/
structure NetEvent where
  schema : String
  table : String
  kind : EventKind
  /-- The key of the row before the first event. -/
  oldKey : String
  /-- The key of the row after the last event. It differs from the old key only if an update changed
  the key. -/
  newKey : String
  columns : List Column
  /-- Whether the row was both inserted and deleted, so that nothing is left to be done. -/
  cancelled : Bool

/-- What happens when an event meets the pending events. -/
inductive Transition
  /-- No event of the row was pending; now this one is. -/
  | added
  | folded
  | replaced
  /-- The two events cancel, and nothing is left of the row. -/
  | removed
  /-- The two cannot follow each other; the later one is dropped. -/
  | invalid
  deriving DecidableEq

namespace NetEvent

/-- The net effect of a single row event, in a table whose key is known. -/
def ofRowEvent (event : RowEvent) (info : TableInfo) : Except RowError NetEvent := do
  let columns ← decodeRow event.columns
  let oldKey ← rowKey columns info .pre
  let newKey ← if event.kind = .update then rowKey columns info .post else pure oldKey
  return ⟨event.schema, event.table, event.kind, oldKey, newKey, columns, false⟩

def toRowEvent (event : NetEvent) : RowEvent :=
  ⟨event.schema, event.table, event.kind, event.columns.map Column.encode⟩

/-- The key under which the event is kept while it is pending: that of the row it leaves behind, and
for a delete that of the row it removes. -/
def mapKey (event : NetEvent) : String :=
  match event.kind with
  | .delete => event.oldKey
  | .insert | .update => event.newKey

/-- The columns of a later update with the values that the row had before an earlier one. -/
def chainColumns (earlier later : List Column) : List Column :=
  later.map fun column =>
    { column with
      value := ((columnNamed? earlier column.name).getD column).value
      changed := some (column.image .post) }

/-- The event that removes a row which was updated from one key to another before: the row is known
by the key that it had at first. -/
def deleteMoved (pending incoming : NetEvent) : NetEvent :=
  { incoming with
    kind := .delete
    oldKey := pending.oldKey
    newKey := pending.oldKey
    columns := pending.columns.map fun column => column.settled .pre }

def merge (pending incoming : NetEvent) : NetEvent × Transition :=
  match pending.kind, incoming.kind with
  | .insert, .update =>
      ({ pending with
          oldKey := incoming.newKey
          newKey := incoming.newKey
          columns := incoming.columns.map fun column => column.settled .post },
        .folded)
  | .insert, .delete => ({ pending with cancelled := true }, .removed)
  | .update, .update =>
      ({ pending with
          newKey := incoming.newKey
          columns := chainColumns pending.columns incoming.columns },
        .folded)
  | .update, .delete =>
      (if pending.oldKey = pending.newKey then incoming else deleteMoved pending incoming,
        .replaced)
  | .delete, .insert => (incoming, .replaced)
  | .insert, .insert | .update, .insert | .delete, .update | .delete, .delete =>
      (pending, .invalid)

end NetEvent

end RowLog
