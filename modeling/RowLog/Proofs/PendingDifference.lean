import Mathlib.Order.BooleanAlgebra.Set
import RowLog.Proofs.Difference
import RowLog.Proofs.PendingPlaces

/-!
# Pending events as a difference

What is pending is meant to be the difference between the table now and the table at the last
drain. The two part in one case only: an insert that arrives at the place of a delete takes it
over, and the delete is forgotten. `Pending.difference` reads the difference off the pending
events, given the keys whose deletes have been forgotten.

The invariant `Pending.Tracks` says that what is pending is the difference between two tables, and
that no forgotten delete is pending. `exists_apply_tracks` states that an event which fits the
table is taken in without a conflict and keeps the invariant, and `applyAll_empty_of_history`
states the same of a whole history.
-/

namespace RowLog

namespace Pending

/-- Takes in events, up to the first that runs into a conflict. -/
def applyAll (pending : Pending) : List NetEvent → Except KeyConflict Pending
  | [] => .ok pending
  | event :: rest =>
      match pending.apply event with
      | (next, .ok _) => next.applyAll rest
      | (_, .error conflict) => .error conflict

/-- The difference that the pending events stand for, together with some keys whose deletes are no
longer pending. -/
def difference (pending : Pending) (forgotten : Set String) : Difference :=
  ⟨pending.live?, pending.deletes ∪ forgotten⟩

/-- Whether an event inserts a row under a key whose delete is pending in its place. -/
def Recreates (pending : Pending) (event : NetEvent) : Prop :=
  event.kind = .insert ∧
    ∃ earlier, pending.get? event.oldKey = some earlier ∧ earlier.kind = .delete

/-- The key whose delete an event makes the pending events forget, if there is one. -/
def recreated (pending : Pending) (event : NetEvent) : Set String :=
  {key | pending.Recreates event ∧ event.oldKey = key}

/-- The keys whose deletes are forgotten while events are taken in. -/
def forgotten (pending : Pending) : List NetEvent → Set String
  | [] => ∅
  | event :: rest =>
      pending.recreated event ∪ (pending.apply event).1.forgotten rest

variable {pending : Pending} {event : NetEvent} {key : String}

theorem recreated_eq_empty (kept : ¬pending.Recreates event) : pending.recreated event = ∅ := by
  simp [recreated, kept]

theorem recreated_eq_singleton (recreates : pending.Recreates event) :
    pending.recreated event = {event.oldKey} := by
  simp [recreated, recreates]

theorem StandsFor.difference_eq {live : String → Option NetEvent} {deletes : Set String}
    (stands : pending.StandsFor live deletes) (forgotten : Set String) :
    pending.difference forgotten = ⟨live, deletes ∪ forgotten⟩ := by
  rw [difference, stands.live_eq, stands.deletes_eq]

variable {base table : Table} {forgotten : Set String}

theorem notMem_deletes_of_mem
    (between : (pending.difference forgotten).IsBetween base table) (present : key ∈ table)
    (still : pending.live? key = none) : key ∉ pending.deletes := by
  intro deleted
  exact between.origin_kept present (Difference.origin_of_live_none still) (Or.inl deleted)

theorem live?_eq_none_of_notMem
    (between : (pending.difference forgotten).IsBetween base table) (free : key ∉ table) :
    pending.live? key = none := by
  cases found : pending.live? key with
  | none => rfl
  | some event =>
      exact absurd (Std.ExtTreeMap.getElem?_eq_some_iff.mp (between.live_row found)).1 free

theorem get?_eq_live? (between : (pending.difference forgotten).IsBetween base table)
    (present : key ∈ table) : pending.get? key = pending.live? key := by
  cases found : pending.get? key with
  | none => simp [live?, found]
  | some event =>
      have notDelete : event.kind ≠ .delete := by
        intro isDelete
        have still : pending.live? key = none := by simp [live?, found, isDelete]
        exact notMem_deletes_of_mem between present still (Or.inl ⟨event, found, isDelete⟩)
      exact (live?_eq_some_iff.mpr ⟨found, notDelete⟩).symm

/-- Whether an event is taken in and brings live rows and deletes up to date, but for the delete
that it may make the pending events forget. -/
def TakesIn (pending : Pending) (event : NetEvent) : Prop :=
  ∃ next transition, pending.apply event = (next, .ok transition) ∧ transition ≠ .invalid ∧
    next.StandsFor ((pending.difference ∅).take event).live
      (((pending.difference ∅).take event).removed \ pending.recreated event)

theorem takesIn_insert (orderly : pending.Orderly)
    (between : (pending.difference forgotten).IsBetween base table) (fits : event.Fits table)
    (isInsert : event.kind = .insert) :
    pending.TakesIn event := by
  rcases fits with ⟨proper, state⟩
  simp only [isInsert] at state
  have live : event.kind ≠ .delete := by simp [isInsert]
  have newKey := proper.newKey_eq (by simp [isInsert])
  have vacant : pending.live? event.newKey = none := by
    rw [newKey]
    exact live?_eq_none_of_notMem between state
  have taken : (pending.difference ∅).take event =
      ⟨Function.update pending.live? event.newKey (some event), pending.deletes⟩ := by
    simp [Difference.take, isInsert, difference]
  rw [TakesIn, taken]
  cases found : pending.get? event.oldKey with
  | none =>
      have notRecreated : ¬pending.Recreates event := by simp [Recreates, found]
      rcases store_live orderly proper live vacant .added with ⟨next, stored, stands⟩
      refine ⟨next, .added, ?_, by simp, ?_⟩
      · rw [apply_of_get?_eq_none found, stored]
      · rw [recreated_eq_empty notRecreated, Set.sdiff_empty]
        exact stands
  | some earlier =>
      have earlierDelete : earlier.kind = .delete :=
        live?_eq_none_iff.mp (newKey ▸ vacant) earlier found
      have recreates : pending.Recreates event := ⟨isInsert, earlier, found, earlierDelete⟩
      have erased := standsFor_erase_delete orderly found earlierDelete
      have erasedVacant : (pending.erase event.oldKey).live? event.newKey = none := by
        rw [erased.live_eq]
        exact vacant
      rcases store_live erased.orderly proper live erasedVacant .replaced with
        ⟨next, stored, stands⟩
      have mergeEq : earlier.merge event = (event, .replaced) := by
        simp [NetEvent.merge, earlierDelete, isInsert]
      rw [erased.live_eq, erased.deletes_eq] at stands
      refine ⟨next, .replaced, ?_, by simp, ?_⟩
      · rw [apply_of_merge_eq found mergeEq (by simp), proper.notCancelled, stored]
        rfl
      · rw [recreated_eq_singleton recreates]
        exact stands

theorem takesIn_update (orderly : pending.Orderly)
    (between : (pending.difference forgotten).IsBetween base table) (fits : event.Fits table)
    (isUpdate : event.kind = .update) :
    pending.TakesIn event := by
  rcases fits with ⟨proper, state⟩
  simp only [isUpdate] at state
  rcases state with ⟨present, target⟩
  have notRecreated : ¬pending.Recreates event := by simp [Recreates, isUpdate]
  have live : event.kind ≠ .delete := by simp [isUpdate]
  have place := get?_eq_live? between present
  rw [TakesIn, recreated_eq_empty notRecreated, Set.sdiff_empty]
  cases found : pending.live? event.oldKey with
  | none =>
      have vacant : pending.live? event.newKey = none := by
        rcases target with same | free
        · rw [same, found]
        · exact live?_eq_none_of_notMem between free
      have unchanged : Function.update pending.live? event.oldKey none = pending.live? := by
        rw [← found, Function.update_eq_self]
      have taken : (pending.difference ∅).take event =
          ⟨Function.update pending.live? event.newKey (some event), pending.deletes⟩ := by
        simp [Difference.take, Difference.merged, isUpdate, difference, found, unchanged]
      rcases store_live orderly proper live vacant .added with ⟨next, stored, stands⟩
      refine ⟨next, .added, ?_, by simp, ?_⟩
      · rw [apply_of_get?_eq_none (place.trans found), stored]
      · rw [taken]
        exact stands
  | some earlier =>
      rw [found] at place
      have earlierLive := (live?_eq_some_iff.mp found).2
      have erased := standsFor_erase_live orderly found
      have mergeEq : earlier.merge event = ((earlier.merge event).1, .folded) := by
        rw [← NetEvent.transition_merge_update earlierLive isUpdate]
      have mergedProper :=
        NetEvent.proper_merge_update (orderly.proper place) earlierLive isUpdate
      have mergedLive : (earlier.merge event).1.kind ≠ .delete := by
        rw [NetEvent.kind_merge earlierLive isUpdate]
        exact earlierLive
      have mergedKey := NetEvent.newKey_merge earlierLive isUpdate
      have vacant : (pending.erase event.oldKey).live? (earlier.merge event).1.newKey = none := by
        rw [erased.live_eq, mergedKey, Function.update_apply]
        split
        · rfl
        · next moved =>
            rcases target with same | free
            · exact absurd same moved
            · exact live?_eq_none_of_notMem between free
      have taken : (pending.difference ∅).take event =
          ⟨Function.update (Function.update pending.live? event.oldKey none) event.newKey
            (some (earlier.merge event).1), pending.deletes⟩ := by
        simp [Difference.take, Difference.merged, isUpdate, difference, found]
      rcases store_live erased.orderly mergedProper mergedLive vacant .folded with
        ⟨next, stored, stands⟩
      rw [erased.live_eq, erased.deletes_eq, mergedKey] at stands
      refine ⟨next, .folded, ?_, by simp, ?_⟩
      · rw [apply_of_merge_eq place mergeEq (by simp), mergedProper.notCancelled, stored]
        rfl
      · rw [taken]
        exact stands

theorem takesIn_delete (orderly : pending.Orderly)
    (between : (pending.difference forgotten).IsBetween base table) (fits : event.Fits table)
    (isDelete : event.kind = .delete) :
    pending.TakesIn event := by
  rcases fits with ⟨proper, present⟩
  simp only [isDelete] at present
  have notRecreated : ¬pending.Recreates event := by simp [Recreates, isDelete]
  have place := get?_eq_live? between present
  rw [TakesIn, recreated_eq_empty notRecreated, Set.sdiff_empty]
  cases found : pending.live? event.oldKey with
  | none =>
      have fresh := notMem_deletes_of_mem between present found
      have unchanged : Function.update pending.live? event.oldKey none = pending.live? := by
        rw [← found, Function.update_eq_self]
      have ownOrigin : (pending.difference ∅).origin event.oldKey = some event.oldKey :=
        Difference.origin_of_live_none found
      have taken : (pending.difference ∅).take event =
          ⟨pending.live?, pending.deletes ∪ {event.oldKey}⟩ := by
        rw [Difference.take_delete_of_origin_eq_some isDelete ownOrigin]
        simp [difference, unchanged]
      rcases store_delete orderly proper isDelete fresh .added with ⟨next, stored, stands⟩
      refine ⟨next, .added, ?_, by simp, ?_⟩
      · rw [apply_of_get?_eq_none (place.trans found), stored]
      · rw [taken]
        exact stands
  | some earlier =>
      rw [found] at place
      have earlierLive := (live?_eq_some_iff.mp found).2
      have erased := standsFor_erase_live orderly found
      cases kind : earlier.kind with
      | insert =>
          have mergeEq : earlier.merge event = ({ earlier with cancelled := true }, .removed) := by
            simp [NetEvent.merge, kind, isDelete]
          have noOrigin : (pending.difference ∅).origin event.oldKey = none := by
            simp [difference, Difference.origin, found, kind]
          have taken : (pending.difference ∅).take event =
              ⟨Function.update pending.live? event.oldKey none, pending.deletes⟩ := by
            rw [Difference.take_delete_of_origin_eq_none isDelete noOrigin]
            simp [difference]
          refine ⟨pending.erase event.oldKey, .removed, ?_, by simp, ?_⟩
          · rw [apply_of_merge_eq place mergeEq (by simp)]
            rfl
          · rw [taken]
            exact erased
      | update =>
          -- The delete goes back to the key that the row had at first, where another row may be.
          have earlierKey : earlier.newKey = event.oldKey := by
            rw [← NetEvent.mapKey_of_ne_delete earlierLive, orderly.placed place]
          rcases NetEvent.merge_update_delete kind isDelete proper earlierKey with
            ⟨merged, mergeEq, mergedProper, mergedDelete, mergedKey⟩
          have earlierOrigin : ∀ forgotten,
              (pending.difference forgotten).origin event.oldKey = some earlier.oldKey :=
            fun _ => Difference.origin_of_update found kind
          have fresh : merged.oldKey ∉ (pending.erase event.oldKey).deletes := by
            rw [erased.deletes_eq, mergedKey]
            intro deleted
            exact between.origin_kept present (earlierOrigin forgotten) (Or.inl deleted)
          have taken : (pending.difference ∅).take event =
              ⟨Function.update pending.live? event.oldKey none,
                pending.deletes ∪ {earlier.oldKey}⟩ := by
            rw [Difference.take_delete_of_origin_eq_some isDelete (earlierOrigin ∅)]
            simp [difference]
          rcases store_delete erased.orderly mergedProper mergedDelete fresh .replaced with
            ⟨next, stored, stands⟩
          rw [erased.live_eq, erased.deletes_eq, mergedKey] at stands
          refine ⟨next, .replaced, ?_, by simp, ?_⟩
          · rw [apply_of_merge_eq place mergeEq (by simp), mergedProper.notCancelled, stored]
            rfl
          · rw [taken]
            exact stands
      | delete => exact absurd kind earlierLive

theorem takesIn_of_fits (orderly : pending.Orderly)
    (between : (pending.difference forgotten).IsBetween base table) (fits : event.Fits table) :
    pending.TakesIn event := by
  cases kind : event.kind with
  | insert => exact takesIn_insert orderly between fits kind
  | update => exact takesIn_update orderly between fits kind
  | delete => exact takesIn_delete orderly between fits kind

/-- Whether pending events, together with the keys whose deletes have been forgotten, are the
difference between two tables. -/
structure Tracks (pending : Pending) (forgotten : Set String) (base table : Table) : Prop where
  orderly : pending.Orderly
  between : (pending.difference forgotten).IsBetween base table
  apart : ∀ {key}, key ∈ pending.deletes → key ∉ forgotten

theorem recreated_subset_deletes : pending.recreated event ⊆ pending.deletes := by
  rintro key ⟨⟨_, earlier, found, isDelete⟩, rfl⟩
  exact Or.inl ⟨earlier, found, isDelete⟩

/-- What a difference makes of an event does not depend on the deletes that are forgotten, except
that these stay removed. -/
theorem take_difference (pending : Pending) (forgotten : Set String) (event : NetEvent) :
    (pending.difference forgotten).take event =
      ⟨((pending.difference ∅).take event).live,
        ((pending.difference ∅).take event).removed ∪ forgotten⟩ := by
  cases kind : event.kind with
  | insert => simp [Difference.take, kind, difference]
  | update => simp [Difference.take, kind, difference, Difference.merged]
  | delete =>
      simp only [Difference.take, kind, difference, Set.union_empty, Set.union_right_comm]
      rfl

theorem notMem_forgotten_of_mem_take (tracks : pending.Tracks forgotten base table)
    (fits : event.Fits table) (removed : key ∈ ((pending.difference ∅).take event).removed) :
    key ∉ forgotten := by
  rw [Difference.mem_removed_take_iff] at removed
  rcases removed with deleted | ⟨isDelete, originEq⟩
  · rw [difference, Set.union_empty] at deleted
    exact tracks.apart deleted
  · have present := fits.2
    simp only [isDelete] at present
    intro wasForgotten
    exact tracks.between.origin_kept present originEq (Or.inr wasForgotten)

/-- An event of a history is taken in, and what is pending is the difference again. -/
theorem exists_apply_tracks (tracks : pending.Tracks forgotten base table)
    (fits : event.Fits table) :
    ∃ next transition, pending.apply event = (next, .ok transition) ∧ transition ≠ .invalid ∧
      next.Tracks (forgotten ∪ pending.recreated event) base (table.replay event) ∧
      next.difference (forgotten ∪ pending.recreated event) =
        (pending.difference forgotten).take event := by
  rcases takesIn_of_fits tracks.orderly tracks.between fits with
    ⟨next, transition, applied, valid, stands⟩
  have recreatedSubset :
      pending.recreated event ⊆ ((pending.difference ∅).take event).removed := by
    intro key recreated
    rw [Difference.mem_removed_take_iff]
    exact Or.inl (Or.inl (recreated_subset_deletes recreated))
  have differenceEq : next.difference (forgotten ∪ pending.recreated event) =
      (pending.difference forgotten).take event := by
    rw [stands.difference_eq, take_difference pending forgotten, Set.union_comm forgotten,
      ← Set.union_assoc, Set.sdiff_union_of_subset recreatedSubset]
  refine ⟨next, transition, applied, valid, ⟨stands.orderly, ?_, ?_⟩, differenceEq⟩
  · rw [differenceEq]
    exact Difference.isBetween_take tracks.between fits
  · intro key deleted
    rw [stands.deletes_eq] at deleted
    rcases deleted with ⟨removed, notRecreated⟩
    rintro (wasForgotten | recreated)
    · exact notMem_forgotten_of_mem_take tracks fits removed wasForgotten
    · exact notRecreated recreated

theorem exists_applyAll_tracks (events : List NetEvent)
    (tracks : pending.Tracks forgotten base table) (history : table.History events) :
    ∃ final, pending.applyAll events = .ok final ∧
      final.Tracks (forgotten ∪ pending.forgotten events) base (table.replayAll events) ∧
      final.difference (forgotten ∪ pending.forgotten events) =
        events.foldl Difference.take (pending.difference forgotten) := by
  induction events generalizing pending forgotten table with
  | nil =>
      refine ⟨pending, rfl, ?_, ?_⟩
      · rw [Pending.forgotten, Set.union_empty]
        exact tracks
      · rw [Pending.forgotten, Set.union_empty, List.foldl_nil]
  | cons event rest ih =>
      rcases history with ⟨fits, later⟩
      rcases exists_apply_tracks tracks fits with
        ⟨next, transition, applied, _, nextTracks, taken⟩
      rcases ih nextTracks later with ⟨final, appliedAll, finalTracks, finalEq⟩
      refine ⟨final, ?_, ?_, ?_⟩
      · rw [applyAll, applied]
        exact appliedAll
      · rw [Pending.forgotten, applied, ← Set.union_assoc]
        exact finalTracks
      · rw [Pending.forgotten, applied, ← Set.union_assoc, List.foldl_cons, ← taken]
        exact finalEq

theorem orderly_empty : empty.Orderly where
  proper := by simp
  placed := by simp
  displaced_delete := by simp [empty]
  displaced_nodup := by simp [empty]
  displaced_apart := by simp [empty]

theorem difference_empty : empty.difference ∅ = Difference.empty := by
  simp only [difference, Difference.empty, Difference.mk.injEq]
  constructor
  · funext key
    simp [live?]
  · ext key
    simp [deletes, empty, get?]

theorem tracks_empty (base : Table) : empty.Tracks ∅ base base where
  orderly := orderly_empty
  between := by
    rw [difference_empty]
    exact Difference.isBetween_empty base
  apart := fun _ wasForgotten => wasForgotten

/-- After a history, what is pending is the difference that it has made. -/
theorem applyAll_empty_of_history (events : List NetEvent) (history : base.History events) :
    ∃ final, empty.applyAll events = .ok final ∧
      final.Tracks (empty.forgotten events) base (base.replayAll events) ∧
      final.difference (empty.forgotten events) =
        events.foldl Difference.take Difference.empty := by
  rcases exists_applyAll_tracks events (tracks_empty base) history with
    ⟨final, appliedAll, tracks, finalEq⟩
  rw [Set.empty_union] at tracks finalEq
  rw [difference_empty] at finalEq
  exact ⟨final, appliedAll, tracks, finalEq⟩

end Pending

end RowLog
