import RowLog.Proofs.LiveView
import RowLog.Proofs.DrainOrder

/-!
# What becomes of every event that is taken in

Here nothing is asked of the events except that none has been cancelled before: they need not come
from an orderly history, so that some cannot follow what is pending and some run into a conflict.
Still every pending event is in its own place, `Pending.WellPlaced`, and the answers account for all
of them. `Pending.Accounts` is the balance of a stretch of steps: what was pending before and what
was added is pending now, or was removed, or has been drained. Balances of consecutive stretches add
up (`Accounts.append`), so it is enough to strike one for a single event and one for a drain. A
conflict may lose the event that was pending, and then only the places stay right.
-/

namespace RowLog

namespace NetEvent

variable {earlier event : NetEvent}

/-- Two events cancel, or are merged into one event with something left to do, or the later one
cannot follow the earlier, which stays as it is. -/
theorem merge_outcome (earlierWhole : earlier.cancelled = false)
    (eventWhole : event.cancelled = false) :
    (∃ merged, earlier.merge event = (merged, .removed) ∧ merged.cancelled = true) ∨
      (∃ merged transition, earlier.merge event = (merged, transition) ∧
        merged.cancelled = false ∧ (transition = .folded ∨ transition = .replaced)) ∨
      earlier.merge event = (earlier, .invalid) := by
  cases earlierKind : earlier.kind with
  | insert =>
      cases eventKind : event.kind with
      | insert => exact .inr (.inr (by simp [merge, earlierKind, eventKind]))
      | update =>
          refine .inr (.inl ⟨(earlier.merge event).1, .folded, ?_, ?_, .inl rfl⟩)
          · simp [merge, earlierKind, eventKind]
          · simp [merge, earlierKind, eventKind, earlierWhole]
      | delete =>
          exact .inl ⟨{ earlier with cancelled := true }, by simp [merge, earlierKind, eventKind],
            rfl⟩
  | update =>
      cases eventKind : event.kind with
      | insert => exact .inr (.inr (by simp [merge, earlierKind, eventKind]))
      | update =>
          refine .inr (.inl ⟨(earlier.merge event).1, .folded, ?_, ?_, .inl rfl⟩)
          · simp [merge, earlierKind, eventKind]
          · simp [merge, earlierKind, eventKind, earlierWhole]
      | delete =>
          refine .inr (.inl ⟨(earlier.merge event).1, .replaced, ?_, ?_, .inr rfl⟩)
          · simp [merge, earlierKind, eventKind]
          · simp [merge, earlierKind, eventKind, deleteMoved, apply_ite, eventWhole]
  | delete =>
      cases eventKind : event.kind with
      | insert =>
          exact .inr (.inl ⟨event, .replaced, by simp [merge, earlierKind, eventKind], eventWhole,
            .inr rfl⟩)
      | update => exact .inr (.inr (by simp [merge, earlierKind, eventKind]))
      | delete => exact .inr (.inr (by simp [merge, earlierKind, eventKind]))

end NetEvent

namespace Pending

/-- Whether every pending event has the place that is its own or is a displaced delete, and none has
been cancelled. -/
structure WellPlaced (pending : Pending) : Prop where
  placed : ∀ {key event}, pending.get? key = some event → event.mapKey = key
  notCancelled : ∀ {key event}, pending.get? key = some event → event.cancelled = false
  displaced_delete : ∀ {event}, event ∈ pending.displaced → event.kind = .delete

/-- The events that are handed back when pending ones are drained during some steps. -/
def drained : Pending → List Step → List NetEvent
  | _, [] => []
  | pending, .take event :: rest => (pending.apply event).1.drained rest
  | pending, .drain :: rest => pending.drain.1 ++ pending.drain.2.drained rest

/-- Whether the answers given and the events drained account for the difference between what was
pending before and what is pending after. -/
structure Accounts (before : Pending) (answers : List (Except KeyConflict Transition))
    (drained : List NetEvent) (after : Pending) : Prop where
  invalidCount_eq : after.invalidCount = before.invalidCount + answers.count (.ok .invalid)
  size_eq : (∀ conflict, .error conflict ∉ answers) →
    after.size + answers.count (.ok .removed) + drained.length =
      before.size + answers.count (.ok .added)

section Sizes

variable {pending : Pending} {event occupant : NetEvent} {key : String}

theorem size_put_of_vacant (vacant : pending.get? event.mapKey = none) :
    (pending.put event).size = pending.size + 1 := by
  have absent : event.mapKey ∉ pending.entries := by
    simpa [get?] using vacant
  simp [size, put, Std.ExtTreeMap.size_insert, absent, Nat.add_right_comm]

theorem size_put_of_occupied (found : pending.get? event.mapKey = some occupant) :
    (pending.put event).size = pending.size := by
  have present : event.mapKey ∈ pending.entries :=
    (Std.ExtTreeMap.getElem?_eq_some_iff.mp found).1
  simp [size, put, Std.ExtTreeMap.size_insert, present]

theorem size_displace : (pending.displace event).size = pending.size + 1 := by
  simp [size, displace, Nat.add_assoc]

theorem size_erase (found : pending.get? key = some event) :
    (pending.erase key).size + 1 = pending.size := by
  have present : key ∈ pending.entries := (Std.ExtTreeMap.getElem?_eq_some_iff.mp found).1
  have nonempty : pending.entries.size ≠ 0 := fun none =>
    Std.ExtTreeMap.ne_empty_of_mem present (Std.ExtTreeMap.eq_empty_iff_size_eq_zero.mpr none)
  have erased : (pending.entries.erase key).size = pending.entries.size - 1 := by
    rw [Std.ExtTreeMap.size_erase, if_pos (Std.ExtTreeMap.contains_iff_mem.mpr present)]
  simp only [size, erase, erased]
  omega

theorem length_toList (pending : Pending) : pending.toList.length = pending.size := by
  simp [toList, size, values_eq_map_toList, Std.ExtTreeMap.length_toList, Nat.add_comm]

end Sizes

variable {pending before after : Pending} {event : NetEvent} {key : String}

theorem WellPlaced.isPlaced (wellPlaced : pending.WellPlaced) : pending.IsPlaced := by
  intro key event found
  exact wellPlaced.placed found

theorem wellPlaced_empty : empty.WellPlaced :=
  ⟨by simp, by simp, by simp [empty]⟩

namespace WellPlaced

theorem erase (wellPlaced : pending.WellPlaced) (place : String) :
    (pending.erase place).WellPlaced where
  placed := fun found => wellPlaced.isPlaced.erase place found
  notCancelled := by
    intro key event found
    rw [get?_erase, Option.ite_none_left_eq_some] at found
    exact wellPlaced.notCancelled found.2
  displaced_delete := wellPlaced.displaced_delete

theorem put (wellPlaced : pending.WellPlaced) (notCancelled : event.cancelled = false) :
    (pending.put event).WellPlaced where
  placed := fun found => wellPlaced.isPlaced.put event found
  notCancelled := by
    intro key other found
    rw [get?_put] at found
    split at found
    · exact Option.some.inj found ▸ notCancelled
    · exact wellPlaced.notCancelled found
  displaced_delete := wellPlaced.displaced_delete

theorem displace (wellPlaced : pending.WellPlaced) (isDelete : event.kind = .delete) :
    (pending.displace event).WellPlaced where
  placed := wellPlaced.placed
  notCancelled := wellPlaced.notCancelled
  displaced_delete := by
    intro other otherMem
    rw [displaced_displace, List.mem_append, List.mem_singleton] at otherMem
    rcases otherMem with before | rfl
    · exact wellPlaced.displaced_delete before
    · exact isDelete

end WellPlaced

/-- Whatever is in the way, an event that is given a place leaves all events well placed, and either
there is one more of them or it has run into a conflict. -/
theorem WellPlaced.store (wellPlaced : pending.WellPlaced) (notCancelled : event.cancelled = false)
    (transition : Transition) :
    ∃ next answer, pending.store event transition = (next, answer) ∧ next.WellPlaced ∧
      next.invalidCount = pending.invalidCount ∧
      (answer = .ok transition ∧ next.size = pending.size + 1 ∨
        ∃ conflict, answer = .error conflict) := by
  cases found : pending.get? event.mapKey with
  | none =>
      exact ⟨pending.put event, .ok transition, store_of_get?_eq_none found transition,
        wellPlaced.put notCancelled, rfl, .inl ⟨rfl, size_put_of_vacant found⟩⟩
  | some occupant =>
      by_cases occupantDelete : occupant.kind = .delete
      · refine ⟨(pending.displace occupant).put event, .ok transition,
          store_over_delete found occupantDelete transition,
          (wellPlaced.displace occupantDelete).put notCancelled, rfl, .inl ⟨rfl, ?_⟩⟩
        rw [size_put_of_occupied (by simpa using found), size_displace]
      · by_cases isDelete : event.kind = .delete
        · exact ⟨pending.displace event, .ok transition,
            store_delete_under_live found occupantDelete isDelete transition,
            wellPlaced.displace isDelete, rfl, .inl ⟨rfl, size_displace⟩⟩
        · exact ⟨pending, .error ⟨event.schema, event.table, event.mapKey⟩,
            store_of_conflict found occupantDelete isDelete transition, wellPlaced, rfl,
            .inr ⟨_, rfl⟩⟩

theorem put_erase_of_get? (found : pending.get? event.mapKey = some event) :
    (pending.erase event.mapKey).put event = pending := by
  have entries : (pending.entries.erase event.mapKey).insert event.mapKey event =
      pending.entries := by
    apply Std.ExtTreeMap.ext_getElem?
    intro key
    have there : pending.entries[event.mapKey]? = some event := found
    simp only [Std.ExtTreeMap.getElem?_insert, Std.ExtTreeMap.getElem?_erase]
    grind
  simp [put, erase, entries]

/-- An event that cannot follow the pending one is counted, and nothing else changes. -/
theorem apply_of_invalid {earlier : NetEvent} (wellPlaced : pending.WellPlaced)
    (found : pending.get? event.oldKey = some earlier)
    (invalid : earlier.merge event = (earlier, .invalid)) :
    pending.apply event =
      ({ pending with invalidCount := pending.invalidCount + 1 }, .ok .invalid) := by
  have place : earlier.mapKey = event.oldKey := wellPlaced.placed found
  have kept : earlier.cancelled = false := wellPlaced.notCancelled found
  let counted : Pending := { pending with invalidCount := pending.invalidCount + 1 }
  have vacant : (counted.erase event.oldKey).get? earlier.mapKey = none := by
    rw [get?_erase, if_pos place.symm]
  have unchanged : (counted.erase event.oldKey).put earlier = counted := by
    rw [← place] at found ⊢
    exact put_erase_of_get? found
  calc pending.apply event
      = (counted.erase event.oldKey).store earlier .invalid := by
        simp [apply, found, invalid, kept, countInvalid, erase, counted]
    _ = (counted, .ok .invalid) := by rw [store_of_get?_eq_none vacant, unchanged]

theorem Accounts.append {answers later : List (Except KeyConflict Transition)}
    {drained others : List NetEvent} {middle : Pending}
    (first : before.Accounts answers drained middle)
    (second : middle.Accounts later others after) :
    before.Accounts (answers ++ later) (drained ++ others) after where
  invalidCount_eq := by
    rw [second.invalidCount_eq, first.invalidCount_eq, List.count_append, Nat.add_assoc]
  size_eq := by
    intro taken
    have firstEq := first.size_eq fun conflict conflictMem =>
      taken conflict (List.mem_append_left _ conflictMem)
    have secondEq := second.size_eq fun conflict conflictMem =>
      taken conflict (List.mem_append_right _ conflictMem)
    rw [List.count_append, List.count_append, List.length_append]
    omega

/-- After a conflict the sizes need not balance, and it is not counted as an event that could not
follow. -/
theorem accounts_of_conflict {conflict : KeyConflict}
    (sameCount : after.invalidCount = before.invalidCount) :
    before.Accounts [.error conflict] [] after where
  invalidCount_eq := by simp [sameCount]
  size_eq := fun taken => absurd (List.mem_singleton_self _) (taken conflict)

/-- Every event that is taken in is accounted for, whether it is merged, stored or refused. -/
theorem exists_accounts_apply (wellPlaced : pending.WellPlaced)
    (notCancelled : event.cancelled = false) :
    ∃ next answer, pending.apply event = (next, answer) ∧ next.WellPlaced ∧
      pending.Accounts [answer] [] next := by
  cases found : pending.get? event.oldKey with
  | none =>
      rw [apply_of_get?_eq_none found]
      rcases wellPlaced.store notCancelled .added with
        ⟨next, answer, stored, nextPlaced, sameCount, ⟨rfl, added⟩ | ⟨conflict, rfl⟩⟩
      · exact ⟨next, _, stored, nextPlaced, by simp [sameCount], by simp [added]⟩
      · exact ⟨next, _, stored, nextPlaced, accounts_of_conflict sameCount⟩
  | some earlier =>
      have erasedSize := size_erase found
      rcases NetEvent.merge_outcome (wellPlaced.notCancelled found) notCancelled with
        ⟨merged, mergeEq, cancelled⟩ | ⟨merged, transition, mergeEq, whole, kept⟩ | invalid
      -- The two cancel, and there is one event less.
      · refine ⟨pending.erase event.oldKey, .ok .removed, ?_, wellPlaced.erase _, ?_, ?_⟩
        · rw [apply_of_merge_eq found mergeEq (by simp), if_pos cancelled]
        · simp [erase]
        · simp [erasedSize]
      -- The merged event is there instead of the earlier one, at its own place.
      · rcases (wellPlaced.erase event.oldKey).store whole transition with
          ⟨next, answer, stored, nextPlaced, sameCount, added⟩
        have applied : pending.apply event = (next, answer) := by
          rw [apply_of_merge_eq found mergeEq (by rcases kept with rfl | rfl <;> simp), whole,
            ← stored]
          rfl
        refine ⟨next, answer, applied, nextPlaced, ?_⟩
        rcases added with ⟨rfl, added⟩ | ⟨conflict, rfl⟩
        · rw [erasedSize] at added
          rcases kept with rfl | rfl <;> exact ⟨by simp [sameCount, erase], by simp [added]⟩
        · exact accounts_of_conflict sameCount
      -- The earlier event goes back to its place, which is free.
      · refine ⟨_, _, apply_of_invalid wellPlaced found invalid, ?_, ?_, ?_⟩
        · exact ⟨wellPlaced.placed, wellPlaced.notCancelled, wellPlaced.displaced_delete⟩
        · simp
        · simp [size]

theorem wellPlaced_drain (pending : Pending) : pending.drain.2.WellPlaced :=
  ⟨by simp [drain, get?], by simp [drain, get?], by simp [drain]⟩

theorem accounts_drain (pending : Pending) :
    pending.Accounts [] pending.drain.1 pending.drain.2 where
  invalidCount_eq := rfl
  size_eq := by
    intro _
    rw [drain, length_toList]
    simp [size]

/-- After any steps the events are well placed, and everything is accounted for. -/
theorem accounts_run (steps : List Step) (wellPlaced : pending.WellPlaced)
    (whole : ∀ event, .take event ∈ steps → event.cancelled = false) :
    (pending.run steps).2.WellPlaced ∧
      pending.Accounts (pending.run steps).1 (pending.drained steps) (pending.run steps).2 := by
  induction steps generalizing pending with
  | nil => exact ⟨wellPlaced, by simp [run], by simp [run, drained]⟩
  | cons step rest ih =>
      have wholeRest : ∀ event, .take event ∈ rest → event.cancelled = false :=
        fun event eventMem => whole event (List.mem_cons_of_mem _ eventMem)
      cases step with
      | take event =>
          rcases exists_accounts_apply wellPlaced (whole event List.mem_cons_self) with
            ⟨next, answer, applied, nextPlaced, accounts⟩
          rcases ih nextPlaced wholeRest with ⟨finalPlaced, later⟩
          simp only [run, drained, applied]
          exact ⟨finalPlaced, accounts.append later⟩
      | drain =>
          rcases ih (wellPlaced_drain pending) wholeRest with ⟨finalPlaced, later⟩
          exact ⟨finalPlaced, (accounts_drain pending).append later⟩

/-- Whatever events arrive and whenever pending ones are drained, each pending event is in its own
place with something left to do, and those moved out of their place are deletes. The events that
could not follow have been counted, and if there was no conflict there are as many events pending as
were added and neither removed nor drained. -/
theorem counts_run (steps : List Step)
    (whole : ∀ event, .take event ∈ steps → event.cancelled = false) :
    let answers := (empty.run steps).1
    let final := (empty.run steps).2
    (∀ key event, final.get? key = some event → event.mapKey = key ∧ event.cancelled = false) ∧
      (∀ event ∈ final.displaced, event.kind = .delete) ∧
      final.invalidCount = answers.count (.ok .invalid) ∧
      ((∀ conflict, .error conflict ∉ answers) →
        (final.size : ℤ) = answers.count (.ok .added) - answers.count (.ok .removed) -
          (empty.drained steps).length) := by
  intro answers final
  rcases accounts_run steps wellPlaced_empty whole with ⟨wellPlaced, accounts⟩
  refine ⟨?_, fun event displaced => wellPlaced.displaced_delete displaced, ?_, ?_⟩
  · intro key event found
    exact ⟨wellPlaced.placed found, wellPlaced.notCancelled found⟩
  · rw [accounts.invalidCount_eq, show empty.invalidCount = 0 from rfl, Nat.zero_add]
  · intro taken
    have balance := accounts.size_eq taken
    rw [show empty.size = 0 from rfl] at balance
    simp only [answers, final]
    omega

/-- A row moves to the key of a deleted one, an insert of a row that is there is dropped, and a row
comes and goes, with a drain in between. -/
theorem counts_run_of_dropped_insert :
    let steps : List Step := [.take (.single .delete "1|" "1|" 5),
      .take (.single .update "2|" "1|" 6), .take (.single .insert "3|" "3|" 7), .drain,
      .take (.single .insert "4|" "4|" 8), .take (.single .insert "4|" "4|" 9),
      .take (.single .delete "4|" "4|" 8), .take (.single .insert "5|" "5|" 1)]
    (∀ event, .take event ∈ steps → event.cancelled = false) ∧
      (empty.run steps).2.invalidCount = 1 ∧ (empty.drained steps).length = 3 ∧
      (empty.run steps).2.size = 1 := by
  intro steps
  have whole : ∀ event, Step.take event ∈ steps → event.cancelled = false := by
    intro event eventMem
    simp only [steps, List.mem_cons, Step.take.injEq, reduceCtorEq, false_or, List.not_mem_nil,
      or_false] at eventMem
    rcases eventMem with rfl | rfl | rfl | rfl | rfl | rfl | rfl <;> rfl
  have answers : (empty.run steps).1 = [.ok .added, .ok .added, .ok .added, .ok .added,
      .ok .invalid, .ok .removed, .ok .added] := rfl
  have drainedLength : (empty.drained steps).length = 3 := by
    have listed : empty.drained steps = (empty.run (steps.take 3)).2.toList ++ [] := rfl
    rw [listed, List.append_nil, length_toList]
    rfl
  rcases counts_run steps whole with ⟨_, _, invalid, size⟩
  have sizeEq : ((empty.run steps).2.size : ℤ) = 5 - 1 - 3 := by
    rw [size (by simp [answers]), answers, drainedLength]
    rfl
  rw [answers] at invalid
  exact ⟨whole, invalid, drainedLength, by omega⟩

end Pending

end RowLog
