import RowLog.Proofs.PendingDifference

/-!
# Pending events as a view of the table

While a table goes through its history, its events are taken in and from time to time all pending
ones are drained. A drain forgets what happened before: from then on the pending events stand for
the difference to the table as it was at the drain. So every step of an orderly history is answered
without a conflict and without an invalid transition, and whatever is stored under a key agrees with
the table: an insert or an update leaves the row that is there, and a delete has none.
-/

namespace RowLog

theorem Table.History.of_append {table : Table} {before after : List NetEvent}
    (history : table.History (before ++ after)) : table.History before := by
  induction before generalizing table with
  | nil => trivial
  | cons event rest ih =>
      rcases history with ⟨fits, later⟩
      exact ⟨fits, ih later⟩

namespace Pending

/-- What is done with pending events. -/
inductive Step
  | take (event : NetEvent)
  | drain

/-- The event that a step takes in. -/
def Step.event? : Step → Option NetEvent
  | .take event => some event
  | .drain => none

/-- The answers to the events that are taken in, and what is pending after all steps. -/
def run : Pending → List Step → List (Except KeyConflict Transition) × Pending
  | pending, [] => ([], pending)
  | pending, .take event :: rest =>
      let (next, answer) := pending.apply event
      let (answers, final) := next.run rest
      (answer :: answers, final)
  | pending, .drain :: rest => pending.drain.2.run rest

theorem run_append (pending : Pending) (before after : List Step) :
    pending.run (before ++ after) =
      ((pending.run before).1 ++ ((pending.run before).2.run after).1,
        ((pending.run before).2.run after).2) := by
  induction before generalizing pending with
  | nil => rfl
  | cons step rest ih => cases step <;> simp [run, ih]

/-- Whether what is stored under any key agrees with the row that a table has there. -/
structure IsLiveView (pending : Pending) (table : Table) : Prop where
  row_of_live : ∀ {key event}, pending.get? key = some event → event.kind ≠ .delete →
    table[key]? = some event.postRow
  absent_of_delete : ∀ {key event}, pending.get? key = some event → event.kind = .delete →
    key ∉ table

variable {pending : Pending} {base table : Table} {forgotten : Set String}

theorem Tracks.isLiveView (tracks : pending.Tracks forgotten base table) :
    pending.IsLiveView table where
  row_of_live := by
    intro key event found live
    exact tracks.between.live_row (live?_eq_some_iff.mpr ⟨found, live⟩)
  absent_of_delete := by
    intro key event found isDelete present
    have place := get?_eq_live? tracks.between present
    rw [found] at place
    exact (live?_eq_some_iff.mp place.symm).2 isDelete

/-- After a drain nothing sets the table apart from what it is now. -/
theorem tracks_drain (pending : Pending) (table : Table) :
    pending.drain.2.Tracks ∅ table table := by
  have same := tracks_empty table
  exact ⟨⟨same.orderly.proper, same.orderly.placed, same.orderly.displaced_delete,
    same.orderly.displaced_nodup, same.orderly.displaced_apart⟩, same.between, same.apart⟩

/-- Whether an event was taken in, and could follow what was pending. -/
def IsTakenIn (answer : Except KeyConflict Transition) : Prop :=
  ∃ transition, answer = .ok transition ∧ transition ≠ .invalid

theorem exists_tracks_run (steps : List Step) (tracks : pending.Tracks forgotten base table)
    (history : table.History (steps.filterMap Step.event?)) :
    (∀ answer ∈ (pending.run steps).1, IsTakenIn answer) ∧
      ∃ since lost, (pending.run steps).2.Tracks lost since
        (table.replayAll (steps.filterMap Step.event?)) := by
  induction steps generalizing pending forgotten base table with
  | nil => exact ⟨by simp [run], base, forgotten, tracks⟩
  | cons step rest ih =>
      cases step with
      | take event =>
          rcases history with ⟨fits, later⟩
          rcases exists_apply_tracks tracks fits with ⟨next, transition, applied, valid, kept, _⟩
          rcases ih kept later with ⟨answered, reached⟩
          simp only [run, applied]
          refine ⟨?_, reached⟩
          intro answer answerMem
          rcases List.mem_cons.mp answerMem with rfl | laterMem
          · exact ⟨transition, rfl, valid⟩
          · exact answered answer laterMem
      | drain => exact ih (tracks_drain pending table) history

/-- In an orderly history with drains at any points, every event is taken in, and at every moment
the pending events agree with the table. -/
theorem run_of_history (base : Table) (steps : List Step)
    (history : base.History (steps.filterMap Step.event?)) :
    (∀ answer ∈ (empty.run steps).1, IsTakenIn answer) ∧
      ∀ before, before <+: steps →
        (empty.run before).2.IsLiveView (base.replayAll (before.filterMap Step.event?)) := by
  refine ⟨(exists_tracks_run steps (tracks_empty base) history).1, ?_⟩
  rintro before ⟨after, rfl⟩
  rw [List.filterMap_append] at history
  rcases exists_tracks_run before (tracks_empty base) history.of_append with
    ⟨_, since, lost, tracks⟩
  exact tracks.isLiveView

/-- A row leaves its key to a new one and is deleted after a drain, which puts the delete under a
key that is free, and rows move to the keys of rows that have been deleted. -/
theorem run_of_history_of_taken_keys :
    let base : Table := ((∅ : Table).insert "1|" []).insert "2|" [] |>.insert "3|" []
    let steps : List Step := [.take (.single .update "3|" "4|" 5),
      .take (.single .insert "3|" "3|" 6), .drain, .take (.single .delete "4|" "4|" 5),
      .take (.single .delete "1|" "1|" 7), .take (.single .update "2|" "1|" 8), .drain,
      .take (.single .update "1|" "2|" 9), .take (.single .insert "1|" "1|" 1),
      .take (.single .delete "2|" "2|" 9)]
    base.History (steps.filterMap Step.event?) ∧
      (∀ answer ∈ (empty.run steps).1, IsTakenIn answer) ∧
      ∀ before, before <+: steps →
        (empty.run before).2.IsLiveView (base.replayAll (before.filterMap Step.event?)) := by
  intro base steps
  have history : base.History (steps.filterMap Step.event?) := by
    have events : steps.filterMap Step.event? = [.single .update "3|" "4|" 5,
        .single .insert "3|" "3|" 6, .single .delete "4|" "4|" 5, .single .delete "1|" "1|" 7,
        .single .update "2|" "1|" 8, .single .update "1|" "2|" 9, .single .insert "1|" "1|" 1,
        .single .delete "2|" "2|" 9] := rfl
    rw [events]
    simp [base, NetEvent.single, Table.History, NetEvent.Fits, NetEvent.proper_iff, Table.replay]
  exact ⟨history, run_of_history base steps history⟩

end Pending

end RowLog
