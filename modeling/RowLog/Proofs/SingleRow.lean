import Mathlib.Data.List.Nodup
import RowLog.Proofs.LiveView

/-!
# The net effect on a single row

One row is followed through the log. Either it is inserted or it was there before; then each update
finds it under the key and with the values that the event before has left, and takes it on to
another key or leaves it where it is; in the end it may be deleted. The keys that it has on its way
may repeat.

As long as no event of another row comes, there is one pending event at any time, and it leads from
where the row began to where it is now: it is the net effect of the walk, `NetEvent.IsNet`. Updates
keep it so (`IsNet.merge_update`), hence it is so at the end of the walk, and a delete cancels it
(`IsNet.merge_delete_of_insert`) or is carried back to where the row began
(`IsNet.merge_delete_of_update`).
-/

namespace RowLog

/-- The values that columns have in one image of their row, with the names of the columns. -/
def namedValues (columns : List Column) (image : Image) : List (String × CellValue) :=
  columns.map fun column => (column.name, column.image image)

theorem names_eq_of_namedValues_eq {left right : List Column} {image other : Image}
    (same : namedValues left image = namedValues right other) :
    left.map Column.name = right.map Column.name := by
  have names := congrArg (List.map Prod.fst) same
  simpa [namedValues, Function.comp_def] using names

theorem columnNamed?_name {columns : List Column} {column : Column}
    (distinct : (columns.map Column.name).Nodup) (columnMem : column ∈ columns) :
    columnNamed? columns column.name = some column := by
  have named : ∃ other, columnNamed? columns column.name = some other := by
    rw [← Option.isSome_iff_exists, columnNamed?, List.find?_isSome]
    exact ⟨column, List.mem_reverse.mpr columnMem, beq_self_eq_true _⟩
  rcases named with ⟨other, found⟩
  have otherMem := List.mem_reverse.mp (List.mem_of_find?_eq_some found)
  have sameName : other.name = column.name := by
    simpa using List.find?_some found
  rw [found, List.inj_on_of_nodup_map distinct otherMem columnMem sameName]

namespace NetEvent

/-- Chained columns have the earlier values where the same columns are there, in the same order. -/
theorem namedValues_chainColumns {earlier later : List Column}
    (distinct : (earlier.map Column.name).Nodup)
    (sameNames : earlier.map Column.name = later.map Column.name) :
    namedValues (chainColumns earlier later) .pre = namedValues earlier .pre := by
  have sameLength : earlier.length = later.length := by
    simpa using congrArg List.length sameNames
  apply List.ext_getElem
  · simp [namedValues, chainColumns, sameLength]
  · intro i inChained inEarlier
    simp only [namedValues, chainColumns, List.length_map] at inChained inEarlier
    have sameName : later[i].name = earlier[i].name := by
      have names : (later.map Column.name)[i]? = (earlier.map Column.name)[i]? := by
        rw [sameNames]
      simpa [inChained, inEarlier] using names
    have found : columnNamed? earlier earlier[i].name = some earlier[i] :=
      columnNamed?_name distinct (List.getElem_mem inEarlier)
    simp [namedValues, chainColumns, found, sameName, Column.image]

/-- Whether an event can be the first that is seen of a row: an update, or an insert, which has only
one image of the row. -/
structure Begins (event : NetEvent) : Prop where
  proper : event.Proper
  live : event.kind ≠ .delete
  distinct : (event.columns.map Column.name).Nodup
  plain : event.kind = .insert → ∀ column ∈ event.columns, column.changed = none

/-- Whether an event is an update of the row that another one has left behind. -/
structure Continues (before event : NetEvent) : Prop where
  isUpdate : event.kind = .update
  notCancelled : event.cancelled = false
  oldKey_eq : event.oldKey = before.newKey
  values_eq : namedValues event.columns .pre = namedValues before.columns .post

/-- Whether an event deletes the row that another one has left behind. -/
structure Ends (before event : NetEvent) : Prop where
  isDelete : event.kind = .delete
  proper : event.Proper
  oldKey_eq : event.oldKey = before.newKey

/-- Whether an event is the net effect of a walk from one event to another. -/
inductive IsNet (first last : NetEvent) : NetEvent → Prop
  | insert (isInsert : first.kind = .insert) :
      IsNet first last
        { first with oldKey := last.newKey, newKey := last.newKey, columns := last.postRow }
  | update (isUpdate : first.kind = .update) (columns : List Column)
      (pre : namedValues columns .pre = namedValues first.columns .pre)
      (post : columns.map (Column.settled · .post) = last.postRow) :
      IsNet first last { first with newKey := last.newKey, columns := columns }

variable {first last event pending : NetEvent}

theorem postRow_eq_self (plain : ∀ column ∈ event.columns, column.changed = none) :
    event.postRow = event.columns := by
  rw [postRow]
  refine (List.map_congr_left ?_).trans (List.map_id _)
  rintro ⟨name, type, value, changed⟩ columnMem
  have single : changed = none := plain _ columnMem
  subst single
  rfl

theorem namedValues_eq_of_settled {left right : List Column}
    (same : left.map (Column.settled · .post) = right.map (Column.settled · .post)) :
    namedValues left .post = namedValues right .post := by
  have values := congrArg (fun columns => namedValues columns .post) same
  simpa [namedValues, Function.comp_def] using values

theorem isNet_self (begins : first.Begins) : IsNet first first first := by
  cases kind : first.kind with
  | insert =>
      have plainRow := postRow_eq_self (begins.plain kind)
      have oneKey := begins.proper.newKey_eq (by simp [kind])
      have net : IsNet first first _ := .insert kind
      have same : { first with
          oldKey := first.newKey, newKey := first.newKey, columns := first.postRow } = first := by
        rw [plainRow]
        obtain ⟨⟩ := first
        simp_all
      rwa [same] at net
  | update => exact .update kind first.columns rfl rfl
  | delete => exact absurd kind begins.live

namespace IsNet

theorem eq_of_insert (net : IsNet first last pending) (isInsert : first.kind = .insert) :
    pending = { first with
      oldKey := last.newKey, newKey := last.newKey, columns := last.postRow } := by
  cases net with
  | insert => rfl
  | update isUpdate => simp [isInsert] at isUpdate

theorem exists_eq_of_update (net : IsNet first last pending) (isUpdate : first.kind = .update) :
    ∃ columns, pending = { first with newKey := last.newKey, columns := columns } ∧
      namedValues columns .pre = namedValues first.columns .pre ∧
      columns.map (Column.settled · .post) = last.postRow := by
  cases net with
  | insert isInsert => simp [isInsert] at isUpdate
  | update _ columns pre post => exact ⟨columns, rfl, pre, post⟩

theorem live (net : IsNet first last pending) : pending.kind ≠ .delete := by
  cases net with
  | insert isInsert => simp [isInsert]
  | update isUpdate => simp [isUpdate]

theorem mapKey_eq (net : IsNet first last pending) : pending.mapKey = last.newKey := by
  rw [mapKey_of_ne_delete net.live]
  cases net <;> rfl

theorem notCancelled (begins : first.Begins) (net : IsNet first last pending) :
    pending.cancelled = false := by
  cases net <;> exact begins.proper.notCancelled

/-- An update makes the net effect of a walk into that of the walk with one more step. -/
theorem merge_update (begins : first.Begins) (net : IsNet first last pending)
    (continues : Continues last event) :
    ∃ merged, pending.merge event = (merged, .folded) ∧ IsNet first event merged := by
  have isUpdate := continues.isUpdate
  cases net with
  | insert isInsert =>
      exact ⟨_, by simp [merge, isInsert, isUpdate, postRow], .insert isInsert⟩
  | update firstUpdate columns pre post =>
      have distinct : (columns.map Column.name).Nodup := by
        rw [names_eq_of_namedValues_eq pre]
        exact begins.distinct
      have sameValues : namedValues columns .post = namedValues event.columns .pre := by
        rw [continues.values_eq, namedValues_eq_of_settled post]
      have sameNames := names_eq_of_namedValues_eq sameValues
      refine ⟨{ first with
          newKey := event.newKey, columns := chainColumns columns event.columns },
        by simp [merge, firstUpdate, isUpdate], .update firstUpdate _ ?_ ?_⟩
      · rw [namedValues_chainColumns distinct sameNames, pre]
      · simp [chainColumns, postRow, Column.settled, Column.image]

/-- A delete cancels whatever a walk has come to that began with an insert. -/
theorem merge_delete_of_insert (net : IsNet first last pending) (isInsert : first.kind = .insert)
    (isDelete : event.kind = .delete) :
    pending.merge event = ({ pending with cancelled := true }, .removed) := by
  rw [net.eq_of_insert isInsert]
  simp [merge, isInsert, isDelete]

/-- A delete after a walk of updates deletes the row under the key that it had at first. If that is
not the last key, it does so with the values that the row had at first. -/
theorem merge_delete_of_update (net : IsNet first last pending) (isUpdate : first.kind = .update)
    (ends : Ends last event) :
    ∃ columns, pending.merge event =
        ({ event with oldKey := first.oldKey, newKey := first.oldKey, columns := columns },
          .replaced) ∧
      (first.oldKey = last.newKey → columns = event.columns) ∧
      (first.oldKey ≠ last.newKey → (∀ column ∈ columns, column.changed = none) ∧
        namedValues columns .pre = namedValues first.columns .pre) := by
  have isDelete := ends.isDelete
  rcases net.exists_eq_of_update isUpdate with ⟨columns, rfl, pre, _⟩
  by_cases unmoved : first.oldKey = last.newKey
  · refine ⟨event.columns, ?_, fun _ => rfl, fun moved => absurd unmoved moved⟩
    have oldKey : event.oldKey = first.oldKey := ends.oldKey_eq.trans unmoved.symm
    have newKey : event.newKey = first.oldKey := by
      rw [ends.proper.newKey_eq (by simp [isDelete]), oldKey]
    obtain ⟨⟩ := event
    simp_all [merge]
  · refine ⟨columns.map (Column.settled · .pre), ?_, fun same => absurd same unmoved,
      fun _ => ⟨?_, ?_⟩⟩
    · simp [merge, isUpdate, isDelete, unmoved, deleteMoved]
    · simp [Column.settled]
    · simpa [namedValues, Function.comp_def] using pre

end IsNet

end NetEvent

open NetEvent (Begins Continues Ends IsNet)

namespace Pending

variable {pending : Pending} {first last event net : NetEvent} {updates : List NetEvent}

theorem erase_put (event : NetEvent) : (empty.put event).erase event.mapKey = empty := by
  have entries : ((∅ : Std.ExtTreeMap String NetEvent).insert event.mapKey event).erase
      event.mapKey = ∅ := by
    apply Std.ExtTreeMap.ext_getElem?
    intro key
    simp only [Std.ExtTreeMap.getElem?_insert, Std.ExtTreeMap.getElem?_erase]
    grind
  simp [put, erase, empty, entries]

theorem drain_empty : empty.drain.1 = [] := by
  have values : empty.entries.values = [] := rfl
  rw [drain, toList, values, List.mergeSort_nil]
  rfl

theorem drain_put (event : NetEvent) : (empty.put event).drain.1 = [event] := by
  have values : (empty.put event).entries.values = [event] := rfl
  rw [drain, toList, values, List.mergeSort_singleton]
  rfl

/-- When one event is pending and another one of its row comes, what is pending is the two merged,
unless they cancel. -/
theorem apply_put {merged : NetEvent} {transition : Transition}
    (sameRow : net.mapKey = event.oldKey) (mergeEq : net.merge event = (merged, transition))
    (valid : transition ≠ .invalid) :
    (empty.put net).apply event =
      if merged.cancelled then (empty, .ok transition) else (empty.put merged, .ok transition) := by
  have found : (empty.put net).get? event.oldKey = some net := by
    rw [get?_put, if_pos sameRow]
  rw [apply_of_merge_eq found mergeEq valid, ← sameRow, erase_put,
    store_of_get?_eq_none (get?_empty _)]

theorem apply_empty (event : NetEvent) : empty.apply event = (empty.put event, .ok .added) := by
  rw [apply_of_get?_eq_none (get?_empty _), store_of_get?_eq_none (get?_empty _)]

/-- If the net effect of a walk is pending, then after more updates that of the longer walk is. -/
theorem exists_run_put_of_walk (begins : first.Begins) (isNet : IsNet first last net)
    (walk : (last :: updates).IsChain Continues) :
    ∃ answers final, (empty.put net).run (updates.map .take) = (answers, empty.put final) ∧
      (∀ answer ∈ answers, IsTakenIn answer) ∧
      IsNet first (updates.getLastD last) final := by
  induction updates generalizing last net with
  | nil => exact ⟨[], net, rfl, by simp, isNet⟩
  | cons event rest ih =>
      rcases List.isChain_cons_cons.mp walk with ⟨continues, later⟩
      rcases isNet.merge_update begins continues with ⟨merged, mergeEq, mergedNet⟩
      have applied : (empty.put net).apply event = (empty.put merged, .ok .folded) := by
        rw [apply_put (isNet.mapKey_eq.trans continues.oldKey_eq.symm) mergeEq (by simp),
          mergedNet.notCancelled begins]
        rfl
      rcases ih mergedNet later with ⟨answers, final, ran, takenIn, finalNet⟩
      refine ⟨.ok .folded :: answers, final, ?_, ?_, ?_⟩
      · simp [run, applied, ran]
      · exact List.forall_mem_cons.mpr ⟨⟨.folded, rfl, by simp⟩, takenIn⟩
      · rwa [List.getLastD_cons]

theorem exists_run_of_walk (begins : first.Begins) (walk : (first :: updates).IsChain Continues) :
    ∃ answers final, empty.run ((first :: updates).map .take) = (answers, empty.put final) ∧
      (∀ answer ∈ answers, IsTakenIn answer) ∧
      IsNet first (updates.getLastD first) final := by
  rcases exists_run_put_of_walk begins (NetEvent.isNet_self begins) walk with
    ⟨answers, final, ran, takenIn, isNet⟩
  refine ⟨.ok .added :: answers, final, ?_, ?_, isNet⟩
  · simp [run, apply_empty, ran]
  · exact List.forall_mem_cons.mpr ⟨⟨.added, rfl, by simp⟩, takenIn⟩

/-- A delete at the end of a walk is taken in like all events before it, and what it is merged to is
pending, if anything. -/
theorem run_of_delete {delete merged : NetEvent} {transition : Transition}
    {answers : List (Except KeyConflict Transition)} {steps : List Step}
    (ran : empty.run steps = (answers, empty.put net))
    (takenIn : ∀ answer ∈ answers, IsTakenIn answer) (isNet : IsNet first last net)
    (ends : Ends last delete) (mergeEq : net.merge delete = (merged, transition))
    (valid : transition ≠ .invalid) :
    (∀ answer ∈ answers ++ (empty.run (steps ++ [.take delete])).1, IsTakenIn answer) ∧
      (empty.run (steps ++ [.take delete])).2 =
        if merged.cancelled then empty else empty.put merged := by
  have applied := apply_put (isNet.mapKey_eq.trans ends.oldKey_eq.symm) mergeEq valid
  have ranDelete : empty.run (steps ++ [.take delete]) =
      (answers ++ [.ok transition], if merged.cancelled then empty else empty.put merged) := by
    rw [run_append, ran]
    cases cancelled : merged.cancelled <;> simp [run, applied, cancelled]
  rw [ranDelete]
  refine ⟨?_, rfl⟩
  simp only [List.mem_append, List.mem_singleton]
  rintro answer (before | before | rfl)
  · exact takenIn answer before
  · exact takenIn answer before
  · exact ⟨transition, rfl, valid⟩

/-- What is drained after a walk is one event. After an insert this inserts the row where it is now,
and after an update it updates the row from what it was at first to what it is now. If the row is
deleted in the end, nothing is drained after an insert, and after an update one delete, of the row
as it was at first. -/
theorem drain_run_of_walk {delete : NetEvent} (begins : first.Begins)
    (walk : (first :: updates).IsChain Continues) (ends : Ends (updates.getLastD first) delete) :
    let last := updates.getLastD first
    let walked := empty.run ((first :: updates).map .take)
    let deleted := empty.run ((first :: updates ++ [delete]).map .take)
    (∀ answer ∈ walked.1 ++ deleted.1, IsTakenIn answer) ∧
      (first.kind = .insert →
        walked.2.drain.1 = [{ first with
          oldKey := last.newKey, newKey := last.newKey, columns := last.postRow }] ∧
        deleted.2.drain.1 = []) ∧
      (first.kind = .update →
        (∃ columns, walked.2.drain.1 = [{ first with
              newKey := last.newKey, columns := columns }] ∧
          namedValues columns .pre = namedValues first.columns .pre ∧
          columns.map (Column.settled · .post) = last.postRow) ∧
        ∃ columns, deleted.2.drain.1 = [{ delete with
              oldKey := first.oldKey, newKey := first.oldKey, columns := columns }] ∧
          (first.oldKey = last.newKey → columns = delete.columns) ∧
          (first.oldKey ≠ last.newKey → (∀ column ∈ columns, column.changed = none) ∧
            namedValues columns .pre = namedValues first.columns .pre)) := by
  intro last walked deleted
  rcases exists_run_of_walk begins walk with ⟨answers, net, ran, takenIn, isNet⟩
  have ranDeleted : deleted = empty.run ((first :: updates).map .take ++ [.take delete]) := by
    simp only [deleted, List.map_append, List.map_cons, List.map_nil]
  rw [ranDeleted, show walked = _ from ran, drain_put]
  cases kind : first.kind with
  | insert =>
      have mergeEq := isNet.merge_delete_of_insert kind ends.isDelete
      rcases run_of_delete ran takenIn isNet ends mergeEq (by simp) with ⟨allTaken, rest⟩
      refine ⟨allTaken, fun _ => ⟨?_, ?_⟩, by simp⟩
      · rw [isNet.eq_of_insert kind, kind]
      · rw [rest]
        exact drain_empty
  | update =>
      rcases isNet.merge_delete_of_update kind ends with ⟨columns, mergeEq, atFirst, moved⟩
      rcases run_of_delete ran takenIn isNet ends mergeEq (by simp) with ⟨allTaken, rest⟩
      rcases isNet.exists_eq_of_update kind with ⟨netColumns, netEq, pre, post⟩
      refine ⟨allTaken, by simp, fun _ => ⟨⟨netColumns, ?_, pre, post⟩, columns, ?_, atFirst,
        moved⟩⟩
      · rw [netEq, kind]
      · rw [rest, ends.proper.notCancelled]
        exact drain_put _
  | delete => exact absurd kind begins.live

/-- A row goes to another key, back to its first and on to a third. If it was inserted before, it is
inserted at the last key or, once deleted, not at all. If it was there before, it is updated to the
last key, or deleted at the first with the values it had there. -/
theorem drain_run_of_walk_of_returning_key :
    let event := fun (kind : EventKind) (oldKey newKey : String) (amount : Int64)
        (after : Option CellValue) => (⟨"shop", "orders", kind, oldKey, newKey,
      [⟨"buyer", .varchar, .text "ada", none⟩, ⟨"amount", .longLong, .int amount, after⟩],
      false⟩ : NetEvent)
    let insert := event .insert "1|" "1|" 5 none
    let update := event .update "1|" "2|" 5 (some (.int 6))
    let updates := [event .update "2|" "1|" 6 (some (.int 7)), event .update "1|" "3|" 7 none]
    let delete := event .delete "3|" "3|" 7 none
    let drained := fun (events : List NetEvent) => (empty.run (events.map .take)).2.drain.1
    drained (insert :: update :: updates) = [event .insert "3|" "3|" 7 none] ∧
      drained (insert :: update :: updates ++ [delete]) = [] ∧
      (∃ columns, drained (update :: updates) =
          [⟨"shop", "orders", .update, "1|", "3|", columns, false⟩] ∧
        namedValues columns .pre = [("buyer", .text "ada"), ("amount", .int 5)] ∧
        namedValues columns .post = [("buyer", .text "ada"), ("amount", .int 7)]) ∧
      ∃ columns, drained (update :: updates ++ [delete]) =
          [⟨"shop", "orders", .delete, "1|", "1|", columns, false⟩] ∧
        namedValues columns .pre = [("buyer", .text "ada"), ("amount", .int 5)] := by
  intro event insert update updates delete drained
  have ends : Ends (updates.getLastD update) delete := ⟨rfl, ⟨rfl, fun _ => rfl⟩, rfl⟩
  have updateWalk : (update :: updates).IsChain Continues :=
    .cons_cons ⟨rfl, rfl, rfl, rfl⟩ (.cons_cons ⟨rfl, rfl, rfl, rfl⟩ (.singleton _))
  have insertWalk : (insert :: update :: updates).IsChain Continues :=
    .cons_cons ⟨rfl, rfl, rfl, rfl⟩ updateWalk
  have updateBegins : update.Begins :=
    ⟨⟨rfl, fun notUpdate => absurd rfl notUpdate⟩, by simp [update, event],
      by simp [update, event], by simp [update, event]⟩
  have insertBegins : insert.Begins :=
    ⟨⟨rfl, fun _ => rfl⟩, by simp [insert, event], by simp [insert, event],
      by simp [insert, event]⟩
  rcases (drain_run_of_walk insertBegins insertWalk ends).2.1 rfl with ⟨inserted, nothing⟩
  rcases (drain_run_of_walk updateBegins updateWalk ends).2.2 rfl with
    ⟨⟨columns, updated, pre, post⟩, gone, deleted, _, moved⟩
  refine ⟨inserted, nothing, ⟨columns, updated, pre, ?_⟩, gone, deleted, (moved (by decide)).2⟩
  rw [NetEvent.namedValues_eq_of_settled post]
  rfl

end Pending

end RowLog
