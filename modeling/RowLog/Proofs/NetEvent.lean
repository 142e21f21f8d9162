import RowLog.Merge.Pending

/-!
# Merging and the row that is left

What the later proofs need to know of a single net event and of `NetEvent.merge`. Events of the log
are *proper*: nothing has been cancelled in them, and only an update may have two different keys.
Merging a later event of the same row keeps this, and it treats the row as the later event does: an
update leaves its own row behind whatever it is merged into, and a delete removes the row under the
key that it had at first.
-/

namespace RowLog

/-- The content of a row: its columns, each with one value. -/
abbrev Row := List Column

namespace NetEvent

/-- The row that an insert or an update leaves behind. -/
def postRow (event : NetEvent) : Row :=
  event.columns.map fun column => column.settled .post

/-- An event that stands for something still to be done, in which only an update may change the key
of its row. -/
structure Proper (event : NetEvent) : Prop where
  notCancelled : event.cancelled = false
  newKey_eq : event.kind ≠ .update → event.newKey = event.oldKey

theorem proper_iff {event : NetEvent} :
    event.Proper ↔
      event.cancelled = false ∧ (event.kind ≠ .update → event.newKey = event.oldKey) :=
  ⟨fun proper => ⟨proper.notCancelled, proper.newKey_eq⟩, fun parts => ⟨parts.1, parts.2⟩⟩

/-- An event of the log is proper. -/
theorem proper_of_ofRowEvent {event : RowEvent} {info : TableInfo} {net : NetEvent}
    (success : ofRowEvent event info = .ok net) : net.Proper := by
  unfold ofRowEvent at success
  cases columnsEq : decodeRow event.columns with
  | error cause => simp [columnsEq, bind, Except.bind] at success
  | ok columns =>
      cases oldKeyEq : rowKey columns info .pre with
      | error cause => simp [columnsEq, oldKeyEq, bind, Except.bind] at success
      | ok oldKey =>
          by_cases isUpdate : event.kind = .update
          · cases newKeyEq : rowKey columns info .post with
            | error cause =>
                simp [columnsEq, oldKeyEq, newKeyEq, isUpdate, bind, Except.bind] at success
            | ok newKey =>
                simp [columnsEq, oldKeyEq, newKeyEq, isUpdate, bind, Except.bind, pure,
                  Except.pure] at success
                subst success
                exact ⟨rfl, fun notUpdate => absurd rfl notUpdate⟩
          · simp [columnsEq, oldKeyEq, isUpdate, bind, Except.bind, pure, Except.pure] at success
            subst success
            exact ⟨rfl, fun _ => rfl⟩

/-- An event of a table whose rows have one column besides their key. -/
def single (kind : EventKind) (oldKey newKey : String) (amount : Int64) : NetEvent :=
  ⟨"shop", "orders", kind, oldKey, newKey, [⟨"amount", .longLong, .int amount, none⟩], false⟩

variable {earlier event : NetEvent}

theorem mapKey_of_delete (isDelete : event.kind = .delete) : event.mapKey = event.oldKey := by
  simp [mapKey, isDelete]

theorem mapKey_of_ne_delete (live : event.kind ≠ .delete) : event.mapKey = event.newKey := by
  cases kind : event.kind with
  | insert => simp [mapKey, kind]
  | update => simp [mapKey, kind]
  | delete => exact absurd kind live

/-- Whatever an update is merged into, the row that it leaves behind is its own. -/
theorem postRow_merge (live : earlier.kind ≠ .delete) (isUpdate : event.kind = .update) :
    (earlier.merge event).1.postRow = event.postRow := by
  cases kind : earlier.kind with
  | insert =>
      simp [merge, kind, isUpdate, postRow, Column.settled, Column.image]
  | update =>
      simp [merge, kind, isUpdate, postRow, chainColumns, Column.settled, Column.image]
  | delete => exact absurd kind live

theorem kind_merge (live : earlier.kind ≠ .delete) (isUpdate : event.kind = .update) :
    (earlier.merge event).1.kind = earlier.kind := by
  cases kind : earlier.kind with
  | insert => simp [merge, kind, isUpdate]
  | update => simp [merge, kind, isUpdate]
  | delete => exact absurd kind live

theorem oldKey_merge (pending : earlier.kind = .update) (isUpdate : event.kind = .update) :
    (earlier.merge event).1.oldKey = earlier.oldKey := by
  simp [merge, pending, isUpdate]

theorem newKey_merge (live : earlier.kind ≠ .delete) (isUpdate : event.kind = .update) :
    (earlier.merge event).1.newKey = event.newKey := by
  cases kind : earlier.kind with
  | insert => simp [merge, kind, isUpdate]
  | update => simp [merge, kind, isUpdate]
  | delete => exact absurd kind live

theorem transition_merge_update (live : earlier.kind ≠ .delete) (isUpdate : event.kind = .update) :
    (earlier.merge event).2 = .folded := by
  cases kind : earlier.kind with
  | insert => simp [merge, kind, isUpdate]
  | update => simp [merge, kind, isUpdate]
  | delete => exact absurd kind live

theorem proper_merge_update (proper : earlier.Proper) (live : earlier.kind ≠ .delete)
    (isUpdate : event.kind = .update) : (earlier.merge event).1.Proper := by
  cases kind : earlier.kind with
  | insert => exact ⟨by simp [merge, kind, isUpdate, proper.notCancelled],
      by simp [merge, kind, isUpdate]⟩
  | update => exact ⟨by simp [merge, kind, isUpdate, proper.notCancelled],
      by simp [merge, kind, isUpdate]⟩
  | delete => exact absurd kind live

/-- A delete that is merged into an update deletes the row under the key that it had at first. -/
theorem merge_update_delete (pending : earlier.kind = .update) (isDelete : event.kind = .delete)
    (proper : event.Proper) (sameRow : earlier.newKey = event.oldKey) :
    ∃ merged, earlier.merge event = (merged, .replaced) ∧ merged.Proper ∧
      merged.kind = .delete ∧ merged.oldKey = earlier.oldKey := by
  by_cases unmoved : earlier.oldKey = earlier.newKey
  · refine ⟨event, ?_, proper, isDelete, ?_⟩
    · simp [merge, pending, isDelete, unmoved]
    · rw [unmoved, sameRow]
  · refine ⟨deleteMoved earlier event, ?_, ?_, rfl, rfl⟩
    · simp [merge, pending, isDelete, unmoved]
    · exact ⟨proper.notCancelled, fun _ => rfl⟩

end NetEvent

end RowLog
