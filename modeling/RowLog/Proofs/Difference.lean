import Mathlib.Data.Set.Insert
import Mathlib.Logic.Function.Basic
import RowLog.Proofs.Table

/-!
# The difference between two tables

While a table goes through its history, a `Difference` keeps what sets it apart from the table at
the start: the rows that have come or changed, each with the net event that leaves it there, and
the keys of those old rows that are gone. `Difference.take` brings it up to date with one more
event, by the same merging of events that the pending events are kept with, but without any place
that two events could dispute.

The central notion is the *origin* of a row, the key that it had in the old table. The invariant
`Difference.IsBetween` says that origins tie the old rows that are still there to their present
keys one to one, and that each row is as the difference has it. Every event of a history keeps it.
A row can also be followed forward through the events, and `follow_eq_some_iff` states that
origins say the same as this.
-/

namespace RowLog

/-- What sets a table apart from an older one. -/
structure Difference where
  /-- The rows that are new or have changed: for the key of each, the net event that leaves it
  there. -/
  live : String → Option NetEvent
  /-- The keys of the old table whose rows are gone. -/
  removed : Set String

namespace Difference

def empty : Difference := ⟨fun _ => none, ∅⟩

/-- The key that the row under a key had in the old table. A row that has been inserted since has
none. -/
def origin (difference : Difference) (key : String) : Option String :=
  match difference.live key with
  | none => some key
  | some event => if event.kind = .update then some event.oldKey else none

/-- An update with what is known of its row merged into it. -/
def merged (difference : Difference) (event : NetEvent) : NetEvent :=
  match difference.live event.oldKey with
  | none => event
  | some earlier => (earlier.merge event).1

/-- The difference after one more event. -/
def take (difference : Difference) (event : NetEvent) : Difference :=
  match event.kind with
  | .insert =>
      { difference with
        live := Function.update difference.live event.newKey (some event) }
  | .update =>
      { difference with
        live := Function.update (Function.update difference.live event.oldKey none) event.newKey
          (some (difference.merged event)) }
  | .delete =>
      { live := Function.update difference.live event.oldKey none
        removed := difference.removed ∪ {key | difference.origin event.oldKey = some key} }

/-- The keys of the old table under which its row is no longer, or no longer as it was. -/
def vacated (difference : Difference) : Set String :=
  {old | old ∈ difference.removed ∨
    ∃ key event, difference.live key = some event ∧ event.kind = .update ∧ event.oldKey = old}

/-- Whether the difference is the one between two given tables. -/
structure IsBetween (difference : Difference) (base table : Table) : Prop where
  live_kind : ∀ {key event}, difference.live key = some event → event.kind ≠ .delete
  live_row : ∀ {key event}, difference.live key = some event → table[key]? = some event.postRow
  still_row : ∀ {key}, difference.live key = none → key ∈ table → base[key]? = table[key]?
  origin_base : ∀ {key old}, key ∈ table → difference.origin key = some old → old ∈ base
  origin_kept : ∀ {key old}, key ∈ table → difference.origin key = some old →
    old ∉ difference.removed
  origin_injective : ∀ {left right old}, left ∈ table → right ∈ table →
    difference.origin left = some old → difference.origin right = some old → left = right
  exists_origin : ∀ {old}, old ∈ base → old ∉ difference.removed →
    ∃ key ∈ table, difference.origin key = some old
  removed_base : ∀ {old}, old ∈ difference.removed → old ∈ base

variable {difference : Difference} {base table : Table} {event : NetEvent}

theorem origin_congr {left right : Difference} {key : String}
    (same : left.live key = right.live key) : left.origin key = right.origin key := by
  simp [origin, same]

theorem origin_of_live_none {key : String} (still : difference.live key = none) :
    difference.origin key = some key := by
  simp [origin, still]

theorem origin_of_update {key : String} (found : difference.live key = some event)
    (isUpdate : event.kind = .update) : difference.origin key = some event.oldKey := by
  simp [origin, found, isUpdate]

theorem origin_eq_some_iff {key old : String} :
    difference.origin key = some old ↔
      (difference.live key = none ∧ key = old) ∨
        ∃ event, difference.live key = some event ∧ event.kind = .update ∧ event.oldKey = old := by
  cases found : difference.live key <;> simp [origin, found]

theorem take_delete_of_origin_eq_some (isDelete : event.kind = .delete) {old : String}
    (originEq : difference.origin event.oldKey = some old) :
    difference.take event =
      ⟨Function.update difference.live event.oldKey none, difference.removed ∪ {old}⟩ := by
  simp [take, isDelete, originEq]

theorem take_delete_of_origin_eq_none (isDelete : event.kind = .delete)
    (originEq : difference.origin event.oldKey = none) :
    difference.take event =
      ⟨Function.update difference.live event.oldKey none, difference.removed⟩ := by
  simp [take, isDelete, originEq]

theorem origin_take_newKey (between : difference.IsBetween base table)
    (isUpdate : event.kind = .update) :
    (difference.take event).origin event.newKey = difference.origin event.oldKey := by
  cases found : difference.live event.oldKey with
  | none => simp [origin, take, isUpdate, merged, found]
  | some earlier =>
      have live := between.live_kind found
      have kind := NetEvent.kind_merge live isUpdate
      by_cases pending : earlier.kind = .update
      · have oldKey := NetEvent.oldKey_merge pending isUpdate
        simp [origin, take, isUpdate, merged, found, kind, pending, oldKey]
      · simp [origin, take, isUpdate, merged, found, kind, pending]

/-- Rows keep their origins wherever an event takes them. -/
theorem origin_take_of_moves (between : difference.IsBetween base table) (fits : event.Fits table)
    {before key : String} (present : before ∈ table) (moves : event.moves before = some key) :
    (difference.take event).origin key = difference.origin before := by
  obtain ⟨proper, state⟩ := fits
  by_cases concerned : event.oldKey = before
  · subst concerned
    cases kind : event.kind with
    | insert =>
        simp only [kind] at state
        exact absurd present state
    | update =>
        rw [NetEvent.moves_oldKey_of_update kind, Option.some.injEq] at moves
        subst moves
        exact origin_take_newKey between kind
    | delete => simp [NetEvent.moves, kind] at moves
  · rw [NetEvent.moves_of_ne concerned, Option.some.injEq] at moves
    subst moves
    apply origin_congr
    cases kind : event.kind with
    | insert =>
        have newKey := proper.newKey_eq (by simp [kind])
        simp only [take, kind]
        rw [Function.update_of_ne]
        rw [newKey]
        exact Ne.symm concerned
    | update =>
        simp only [kind] at state
        simp only [take, kind]
        rw [Function.update_of_ne, Function.update_of_ne (Ne.symm concerned)]
        rintro rfl
        rcases state with ⟨_, same | free⟩
        · exact concerned same.symm
        · exact free present
    | delete =>
        simp only [take, kind]
        rw [Function.update_of_ne (Ne.symm concerned)]

theorem origin_take_insert (isInsert : event.kind = .insert) :
    (difference.take event).origin event.newKey = none := by
  simp [origin, take, isInsert]

/-- The rows with an origin are those before the event that have it, where the event takes them. -/
theorem origin_take_iff (between : difference.IsBetween base table) (fits : event.Fits table)
    {key old : String} :
    key ∈ table.replay event ∧ (difference.take event).origin key = some old ↔
      ∃ before ∈ table, difference.origin before = some old ∧ event.moves before = some key := by
  rw [Table.mem_replay_iff fits]
  constructor
  · rintro ⟨⟨isInsert, rfl⟩ | ⟨before, present, moves⟩, originEq⟩
    · rw [origin_take_insert isInsert] at originEq
      contradiction
    · rw [origin_take_of_moves between fits present moves] at originEq
      exact ⟨before, present, originEq, moves⟩
  · rintro ⟨before, present, originEq, moves⟩
    refine ⟨Or.inr ⟨before, present, moves⟩, ?_⟩
    rw [origin_take_of_moves between fits present moves]
    exact originEq

theorem mem_removed_take_iff {old : String} :
    old ∈ (difference.take event).removed ↔
      old ∈ difference.removed ∨
        event.kind = .delete ∧ difference.origin event.oldKey = some old := by
  cases kind : event.kind <;> simp [take, kind]

theorem postRow_merged (between : difference.IsBetween base table)
    (isUpdate : event.kind = .update) :
    (difference.merged event).postRow = event.postRow := by
  cases found : difference.live event.oldKey with
  | none => simp [merged, found]
  | some earlier => simp [merged, found, NetEvent.postRow_merge (between.live_kind found) isUpdate]

theorem kind_merged (between : difference.IsBetween base table) (isUpdate : event.kind = .update) :
    (difference.merged event).kind ≠ .delete := by
  cases found : difference.live event.oldKey with
  | none => simp [merged, found, isUpdate]
  | some earlier =>
      simpa [merged, found, NetEvent.kind_merge (between.live_kind found) isUpdate] using
        between.live_kind found

/-- An event for a row either comes from the event just taken in, or was there before it, and then
the row is what it was. -/
theorem live_take_eq_some (between : difference.IsBetween base table) {key : String}
    {net : NetEvent} (found : (difference.take event).live key = some net) :
    (net.kind ≠ .delete ∧ (table.replay event)[key]? = some net.postRow) ∨
      (difference.live key = some net ∧ (table.replay event)[key]? = table[key]?) := by
  cases kind : event.kind with
  | insert =>
      simp only [take, kind, Function.update_apply] at found
      rw [Table.getElem?_replay_insert kind]
      by_cases arrives : key = event.newKey
      · left
        simp only [if_pos arrives, Option.some.injEq] at found
        subst found
        simp [kind, arrives]
      · right
        simp only [if_neg arrives] at found
        exact ⟨found, if_neg (Ne.symm arrives)⟩
  | update =>
      simp only [take, kind, Function.update_apply] at found
      rw [Table.getElem?_replay_update kind]
      by_cases arrives : key = event.newKey
      · left
        simp only [if_pos arrives, Option.some.injEq] at found
        subst found
        refine ⟨kind_merged between kind, ?_⟩
        rw [if_pos arrives.symm, postRow_merged between kind]
      · right
        by_cases leaves : key = event.oldKey
        · simp [if_neg arrives, if_pos leaves] at found
        · simp only [if_neg arrives, if_neg leaves] at found
          rw [if_neg (Ne.symm arrives), if_neg (Ne.symm leaves)]
          exact ⟨found, rfl⟩
  | delete =>
      simp only [take, kind, Function.update_apply] at found
      rw [Table.getElem?_replay_delete kind]
      right
      by_cases leaves : key = event.oldKey
      · simp [if_pos leaves] at found
      · simp only [if_neg leaves] at found
        exact ⟨found, if_neg (Ne.symm leaves)⟩

theorem live_take_eq_none {key : String} (still : (difference.take event).live key = none)
    (present : key ∈ table.replay event) :
    difference.live key = none ∧ key ∈ table ∧ (table.replay event)[key]? = table[key]? := by
  cases kind : event.kind with
  | insert =>
      simp only [take, kind, Function.update_apply] at still
      rw [Table.mem_replay_insert kind] at present
      rw [Table.getElem?_replay_insert kind]
      grind
  | update =>
      simp only [take, kind, Function.update_apply] at still
      rw [Table.mem_replay_update kind] at present
      rw [Table.getElem?_replay_update kind]
      grind
  | delete =>
      simp only [take, kind, Function.update_apply] at still
      rw [Table.mem_replay_delete kind] at present
      rw [Table.getElem?_replay_delete kind]
      grind

/-- An event of a history brings the difference up to date. -/
theorem isBetween_take (between : difference.IsBetween base table) (fits : event.Fits table) :
    (difference.take event).IsBetween base (table.replay event) where
  live_kind := by
    intro key net found
    rcases live_take_eq_some between found with ⟨kind, _⟩ | ⟨earlier, _⟩
    · exact kind
    · exact between.live_kind earlier
  live_row := by
    intro key net found
    rcases live_take_eq_some between found with ⟨_, row⟩ | ⟨earlier, same⟩
    · exact row
    · rw [same]
      exact between.live_row earlier
  still_row := by
    intro key still present
    rcases live_take_eq_none still present with ⟨earlier, earlierMem, same⟩
    rw [same]
    exact between.still_row earlier earlierMem
  origin_base := by
    intro key old present originEq
    rcases (origin_take_iff between fits).mp ⟨present, originEq⟩ with
      ⟨before, beforeMem, beforeEq, _⟩
    exact between.origin_base beforeMem beforeEq
  origin_kept := by
    intro key old present originEq
    rcases (origin_take_iff between fits).mp ⟨present, originEq⟩ with
      ⟨before, beforeMem, beforeEq, moves⟩
    rw [mem_removed_take_iff]
    rintro (earlier | ⟨isDelete, deletedEq⟩)
    · exact between.origin_kept beforeMem beforeEq earlier
    · -- The origin is that of the deleted row, and no two rows have the same one.
      have deleted : event.oldKey ∈ table := by
        have state := fits.2
        simpa only [isDelete] using state
      have same := between.origin_injective beforeMem deleted beforeEq deletedEq
      subst same
      simp [NetEvent.moves, isDelete] at moves
  origin_injective := by
    intro left right old leftMem rightMem leftEq rightEq
    rcases (origin_take_iff between fits).mp ⟨leftMem, leftEq⟩ with
      ⟨leftBefore, leftBeforeMem, leftBeforeEq, leftMoves⟩
    rcases (origin_take_iff between fits).mp ⟨rightMem, rightEq⟩ with
      ⟨rightBefore, rightBeforeMem, rightBeforeEq, rightMoves⟩
    have same := between.origin_injective leftBeforeMem rightBeforeMem leftBeforeEq rightBeforeEq
    subst same
    rw [leftMoves, Option.some.injEq] at rightMoves
    exact rightMoves
  exists_origin := by
    intro old oldMem kept
    rw [mem_removed_take_iff, not_or] at kept
    rcases between.exists_origin oldMem kept.1 with ⟨before, beforeMem, beforeEq⟩
    cases moves : event.moves before with
    | none =>
        rcases NetEvent.moves_eq_none_iff.mp moves with ⟨isDelete, rfl⟩
        exact absurd ⟨isDelete, beforeEq⟩ kept.2
    | some key =>
        exact ⟨key, (origin_take_iff between fits).mpr ⟨before, beforeMem, beforeEq, moves⟩⟩
  removed_base := by
    intro old removed
    rw [mem_removed_take_iff] at removed
    rcases removed with earlier | ⟨isDelete, deletedEq⟩
    · exact between.removed_base earlier
    · have state := fits.2
      simp only [isDelete] at state
      exact between.origin_base state deletedEq

theorem isBetween_empty (base : Table) : empty.IsBetween base base where
  live_kind := by
    intro key event found
    simp [empty] at found
  live_row := by
    intro key event found
    simp [empty] at found
  still_row := fun _ _ => rfl
  origin_base := by
    intro key old present originEq
    simp only [origin, empty, Option.some.injEq] at originEq
    exact originEq ▸ present
  origin_kept := by
    intro key old _ _
    simp [empty]
  origin_injective := by
    intro left right old _ _ leftEq rightEq
    simp only [origin, empty, Option.some.injEq] at leftEq rightEq
    exact leftEq.trans rightEq.symm
  exists_origin := by
    intro old oldMem _
    exact ⟨old, oldMem, rfl⟩
  removed_base := by
    intro old removed
    simp [empty] at removed

/-- Over a history, rows keep their origins wherever the events take them. -/
theorem origin_foldl_take_iff (events : List NetEvent) (between : difference.IsBetween base table)
    (history : table.History events) {key old : String} :
    key ∈ table.replayAll events ∧ (events.foldl take difference).origin key = some old ↔
      ∃ before ∈ table, difference.origin before = some old ∧
        NetEvent.follow events before = some key := by
  induction events generalizing difference table with
  | nil => simp [NetEvent.follow]
  | cons event rest ih =>
      rcases history with ⟨fits, later⟩
      rw [Table.replayAll_cons, List.foldl_cons, ih (isBetween_take between fits) later]
      constructor
      · rintro ⟨middle, middleMem, middleEq, follows⟩
        rcases (origin_take_iff between fits).mp ⟨middleMem, middleEq⟩ with
          ⟨before, beforeMem, beforeEq, moves⟩
        exact ⟨before, beforeMem, beforeEq, by simp [NetEvent.follow, moves, follows]⟩
      · rintro ⟨before, beforeMem, beforeEq, follows⟩
        rw [NetEvent.follow, Option.bind_eq_some_iff] at follows
        rcases follows with ⟨middle, moves, follows⟩
        rcases (origin_take_iff between fits).mpr ⟨before, beforeMem, beforeEq, moves⟩ with
          ⟨middleMem, middleEq⟩
        exact ⟨middle, middleMem, middleEq, follows⟩

/-- A row is found by following its old key through a history, and its old key is its origin. -/
theorem follow_eq_some_iff (events : List NetEvent) (history : base.History events)
    {key old : String} (oldMem : old ∈ base) :
    NetEvent.follow events old = some key ↔
      key ∈ base.replayAll events ∧ (events.foldl take empty).origin key = some old := by
  rw [origin_foldl_take_iff events (isBetween_empty base) history]
  simp only [origin, empty, Option.some.injEq]
  constructor
  · intro follows
    exact ⟨old, oldMem, rfl, follows⟩
  · rintro ⟨before, _, rfl, follows⟩
    exact follows

theorem IsBetween.vacated_base (between : difference.IsBetween base table) {old : String}
    (vacated : old ∈ difference.vacated) : old ∈ base := by
  rcases vacated with removed | ⟨key, event, found, isUpdate, rfl⟩
  · exact between.removed_base removed
  · have present : key ∈ table :=
      (Std.ExtTreeMap.getElem?_eq_some_iff.mp (between.live_row found)).1
    exact between.origin_base present (origin_of_update found isUpdate)

/-- A key that stands for a row of the old table and is vacated has no row unless an event has left
one there, and a key that is not vacated has its old row. -/
theorem IsBetween.getElem?_eq (between : difference.IsBetween base table) {key : String}
    (still : difference.live key = none) [Decidable (key ∈ difference.vacated)] :
    table[key]? = if key ∈ difference.vacated then none else base[key]? := by
  have ownOrigin := origin_of_live_none still
  split
  · next vacated =>
      rw [getElem?_eq_none_iff]
      intro present
      rcases vacated with removed | ⟨place, event, found, isUpdate, rfl⟩
      · exact between.origin_kept present ownOrigin removed
      · have placeMem : place ∈ table :=
          (Std.ExtTreeMap.getElem?_eq_some_iff.mp (between.live_row found)).1
        have placeOrigin := origin_of_update found isUpdate
        have same := between.origin_injective placeMem present placeOrigin ownOrigin
        subst same
        simp [still] at found
  · next kept =>
      by_cases present : key ∈ table
      · exact (between.still_row still present).symm
      · rw [Std.ExtTreeMap.getElem?_eq_none present, eq_comm, getElem?_eq_none_iff]
        intro oldMem
        rcases between.exists_origin oldMem (fun removed => kept (Or.inl removed)) with
          ⟨place, placeMem, placeOrigin⟩
        rcases origin_eq_some_iff.mp placeOrigin with ⟨_, rfl⟩ | ⟨event, found, isUpdate, same⟩
        · exact present placeMem
        · exact kept (Or.inr ⟨place, event, found, isUpdate, same⟩)

end Difference

end RowLog
