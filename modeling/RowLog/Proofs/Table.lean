import RowLog.Proofs.NetEvent

/-!
# Tables and their histories

The events of a log are about a table that the log itself does not hold. Here a `Table` is a
finite map from keys to rows, `Table.replay` changes it as an event says, and `Table.History` says
which lists of events can happen to it: a row is inserted only under a key that no row has, only a
row that is there is updated or deleted, and an update keeps the key of its row or gives it one
that is free.

Nothing is asked of the values that an update or a delete states for the row before it.
-/

namespace RowLog

/-- The rows of a table, by their keys. -/
abbrev Table := Std.ExtTreeMap String Row

namespace NetEvent

/-- The key to which an event takes the row under a given key, unless it deletes the row. -/
def moves (event : NetEvent) (key : String) : Option String :=
  if event.oldKey = key then
    match event.kind with
    | .insert => some key
    | .update => some event.newKey
    | .delete => none
  else some key

theorem moves_of_ne {event : NetEvent} {key : String} (other : event.oldKey ≠ key) :
    event.moves key = some key := by
  simp [moves, other]

theorem moves_oldKey_of_update {event : NetEvent} (isUpdate : event.kind = .update) :
    event.moves event.oldKey = some event.newKey := by
  simp [moves, isUpdate]

theorem moves_eq_none_iff {event : NetEvent} {key : String} :
    event.moves key = none ↔ event.kind = .delete ∧ event.oldKey = key := by
  by_cases concerned : event.oldKey = key
  · cases kind : event.kind <;> simp [moves, kind, concerned]
  · simp [moves, concerned]

/-- The key to which events take the row under a given key, unless one of them deletes the row. -/
def follow : List NetEvent → String → Option String
  | [], key => some key
  | event :: rest, key => (event.moves key).bind (follow rest)

/-- Whether an event can happen to a table. -/
def Fits (event : NetEvent) (table : Table) : Prop :=
  event.Proper ∧
    match event.kind with
    | .insert => event.oldKey ∉ table
    | .update => event.oldKey ∈ table ∧ (event.newKey = event.oldKey ∨ event.newKey ∉ table)
    | .delete => event.oldKey ∈ table

end NetEvent

namespace Table

def replay (table : Table) (event : NetEvent) : Table :=
  match event.kind with
  | .insert => table.insert event.newKey event.postRow
  | .update => (table.erase event.oldKey).insert event.newKey event.postRow
  | .delete => table.erase event.oldKey

def replayAll (table : Table) (events : List NetEvent) : Table :=
  events.foldl replay table

/-- Whether the events can happen to a table, one after the other. -/
def History (table : Table) : List NetEvent → Prop
  | [] => True
  | event :: rest => event.Fits table ∧ History (table.replay event) rest

variable {table : Table} {event : NetEvent}

@[simp]
theorem replayAll_nil (table : Table) : table.replayAll [] = table := rfl

@[simp]
theorem replayAll_cons (table : Table) (event : NetEvent) (rest : List NetEvent) :
    table.replayAll (event :: rest) = (table.replay event).replayAll rest := rfl

theorem getElem?_replay_insert (isInsert : event.kind = .insert) (key : String) :
    (table.replay event)[key]? =
      if event.newKey = key then some event.postRow else table[key]? := by
  simp [replay, isInsert, Std.ExtTreeMap.getElem?_insert]

theorem getElem?_replay_update (isUpdate : event.kind = .update) (key : String) :
    (table.replay event)[key]? =
      if event.newKey = key then some event.postRow
      else if event.oldKey = key then none else table[key]? := by
  simp [replay, isUpdate, Std.ExtTreeMap.getElem?_insert, Std.ExtTreeMap.getElem?_erase]

theorem getElem?_replay_delete (isDelete : event.kind = .delete) (key : String) :
    (table.replay event)[key]? = if event.oldKey = key then none else table[key]? := by
  simp [replay, isDelete, Std.ExtTreeMap.getElem?_erase]

theorem mem_replay_insert (isInsert : event.kind = .insert) {key : String} :
    key ∈ table.replay event ↔ event.newKey = key ∨ key ∈ table := by
  simp [replay, isInsert, Std.ExtTreeMap.mem_insert]

theorem mem_replay_update (isUpdate : event.kind = .update) {key : String} :
    key ∈ table.replay event ↔ event.newKey = key ∨ event.oldKey ≠ key ∧ key ∈ table := by
  simp [replay, isUpdate, Std.ExtTreeMap.mem_insert, Std.ExtTreeMap.mem_erase]

theorem mem_replay_delete (isDelete : event.kind = .delete) {key : String} :
    key ∈ table.replay event ↔ event.oldKey ≠ key ∧ key ∈ table := by
  simp [replay, isDelete, Std.ExtTreeMap.mem_erase]

/-- The rows after an event are those before it, each where the event takes it, and the one that the
event inserts. -/
theorem mem_replay_iff (fits : event.Fits table) {key : String} :
    key ∈ table.replay event ↔
      (event.kind = .insert ∧ event.newKey = key) ∨
        ∃ before ∈ table, event.moves before = some key := by
  obtain ⟨_, state⟩ := fits
  cases kind : event.kind with
  | insert =>
      simp only [kind] at state
      have stays : ∀ before ∈ table, event.moves before = some before := by
        intro before present
        apply NetEvent.moves_of_ne
        rintro rfl
        exact state present
      rw [mem_replay_insert kind]
      grind
  | update =>
      simp only [kind] at state
      rw [mem_replay_update kind]
      grind [NetEvent.moves]
  | delete =>
      rw [mem_replay_delete kind]
      grind [NetEvent.moves]

theorem History.proper {events : List NetEvent} (history : table.History events) :
    ∀ event ∈ events, event.Proper := by
  induction events generalizing table with
  | nil => simp
  | cons event rest ih =>
      rcases history with ⟨fits, later⟩
      intro other otherMem
      rcases List.mem_cons.mp otherMem with rfl | restMem
      · exact fits.1
      · exact ih later other restMem

end Table

end RowLog
