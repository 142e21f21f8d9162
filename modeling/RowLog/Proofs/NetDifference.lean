import RowLog.Proofs.DrainOrder

/-!
# Pending events are the net difference

As long as no delete is forgotten, the pending events are the whole difference between the table at
the last drain and the table now, whatever their order: taking out all rows that they are about and
putting in all rows that they leave behind makes the one table into the other. The keys on either
side are pairwise distinct, so the outcome does not depend on the order in which rows are taken out
or put in. `exchange_toList_eq_iff` says what changes when deletes have been forgotten.
-/

namespace RowLog

namespace NetEvent

/-- The keys of the old rows that events are about. -/
def removedKeys (events : List NetEvent) : List String :=
  (events.filter fun event => event.kind ≠ .insert).map oldKey

/-- The events that leave a row behind. -/
def arrivals (events : List NetEvent) : List NetEvent :=
  events.filter fun event => event.kind ≠ .delete

theorem mem_removedKeys_iff {events : List NetEvent} {key : String} :
    key ∈ removedKeys events ↔ ∃ event ∈ events, event.kind ≠ .insert ∧ event.oldKey = key := by
  simp [removedKeys, and_assoc]

theorem mem_arrivals_iff {events : List NetEvent} {event : NetEvent} :
    event ∈ arrivals events ↔ event ∈ events ∧ event.kind ≠ .delete := by
  simp [arrivals]

end NetEvent

open NetEvent (removedKeys arrivals single)

namespace Table

/-- The table once all the rows that events are about have been taken out and then all those that
they leave behind have been put in. -/
def exchange (table : Table) (events : List NetEvent) : Table :=
  ((removedKeys events).foldl Std.ExtTreeMap.erase table).insertMany
    ((arrivals events).map fun event => (event.newKey, event.postRow))

variable {table : Table} {events : List NetEvent} {event : NetEvent} {key : String}

theorem getElem?_foldl_erase (keys : List String) (table : Table) (key : String) :
    (keys.foldl Std.ExtTreeMap.erase table)[key]? = if key ∈ keys then none else table[key]? := by
  induction keys generalizing table with
  | nil => simp
  | cons first rest ih =>
      rw [List.foldl_cons, ih, Std.ExtTreeMap.getElem?_erase]
      grind

theorem getElem?_exchange_of_mem (apart : ((arrivals events).map NetEvent.newKey).Nodup)
    (arrives : event ∈ arrivals events) :
    (table.exchange events)[event.newKey]? = some event.postRow := by
  apply Std.ExtTreeMap.getElem?_insertMany_list_of_mem Std.ReflCmp.compare_self
  · rw [List.pairwise_map]
    apply (List.pairwise_map.mp apart).imp
    intro first second keyNe
    simpa using keyNe
  · exact List.mem_map.mpr ⟨event, arrives, rfl⟩

theorem getElem?_exchange_of_notMem (vacant : key ∉ (arrivals events).map NetEvent.newKey) :
    (table.exchange events)[key]? = if key ∈ removedKeys events then none else table[key]? := by
  rw [exchange, Std.ExtTreeMap.getElem?_insertMany_list_of_contains_eq_false,
    getElem?_foldl_erase]
  simpa using vacant

end Table

namespace Pending

/-- Whether none of the events, taken in one after the other, inserts a row under a key whose delete
is pending in its place. -/
def NeverRecreates (pending : Pending) : List NetEvent → Prop
  | [] => True
  | event :: rest => ¬pending.Recreates event ∧ (pending.apply event).1.NeverRecreates rest

theorem forgotten_eq_empty {events : List NetEvent} {pending : Pending}
    (never : pending.NeverRecreates events) : pending.forgotten events = ∅ := by
  induction events generalizing pending with
  | nil => rfl
  | cons event rest ih =>
      rcases never with ⟨kept, later⟩
      rw [forgotten, recreated_eq_empty kept, ih later, Set.union_empty]

variable {pending : Pending} {forgotten : Set String} {base table : Table} {key : String}

theorem mem_vacated_difference_iff (orderly : pending.Orderly) :
    key ∈ (pending.difference forgotten).vacated ↔
      key ∈ removedKeys pending.toList ∨ key ∈ forgotten := by
  rw [NetEvent.mem_removedKeys_iff]
  constructor
  · rintro ((deleted | wasForgotten) | ⟨place, event, found, isUpdate, rfl⟩)
    · rcases (mem_deletes_iff orderly).mp deleted with ⟨event, listed, isDelete, rfl⟩
      exact Or.inl ⟨event, listed, by simp [isDelete], rfl⟩
    · exact Or.inr wasForgotten
    · exact Or.inl ⟨event, (mem_toList_of_live? orderly found).1, by simp [isUpdate], rfl⟩
  · rintro (⟨event, listed, leaves, rfl⟩ | wasForgotten)
    · cases kind : event.kind with
      | insert => exact absurd kind leaves
      | update =>
          have found := (mem_toList_iff_of_live orderly (by simp [kind])).mp listed
          exact Or.inr ⟨event.newKey, event, found, kind, rfl⟩
      | delete => exact Or.inl (mem_removed_of_mem_toList orderly listed kind)
    · exact Or.inl (Or.inr wasForgotten)

theorem nodup_removedKeys (tracks : pending.Tracks forgotten base table) :
    (removedKeys pending.toList).Nodup := by
  have updateNe : ∀ {update delete : NetEvent}, update ∈ pending.toList → update.kind = .update →
      delete ∈ pending.toList → delete.kind = .delete → update.oldKey ≠ delete.oldKey := by
    intro update delete updateMem isUpdate deleteMem isDelete same
    rcases origin_of_mem_toList tracks updateMem isUpdate with ⟨present, originEq⟩
    exact tracks.between.origin_kept present originEq
      (same ▸ mem_removed_of_mem_toList tracks.orderly deleteMem isDelete)
  rw [removedKeys, List.Nodup, List.pairwise_map, List.pairwise_filter]
  apply (pairwise_toList tracks.orderly).imp_of_mem
  intro first second firstMem secondMem before firstLeaves secondLeaves
  cases firstKind : first.kind with
  | insert => simp [firstKind] at firstLeaves
  | update =>
      cases secondKind : second.kind with
      | insert => simp [secondKind] at secondLeaves
      | update =>
          rcases origin_of_mem_toList tracks firstMem firstKind with ⟨firstPresent, firstOrigin⟩
          rcases origin_of_mem_toList tracks secondMem secondKind with
            ⟨secondPresent, secondOrigin⟩
          intro same
          rw [← same] at secondOrigin
          apply before.lives_ne (by simp [firstKind]) (by simp [secondKind])
          exact tracks.between.origin_injective firstPresent secondPresent firstOrigin secondOrigin
      | delete => exact updateNe firstMem firstKind secondMem secondKind
  | delete =>
      cases secondKind : second.kind with
      | insert => simp [secondKind] at secondLeaves
      | update => exact (updateNe secondMem secondKind firstMem firstKind).symm
      | delete => exact before.deletes_ne firstKind secondKind

theorem nodup_newKey_arrivals (orderly : pending.Orderly) :
    ((arrivals pending.toList).map NetEvent.newKey).Nodup := by
  rw [arrivals, List.Nodup, List.pairwise_map, List.pairwise_filter]
  apply (pairwise_toList orderly).imp
  intro first second before firstLive secondLive
  exact before.lives_ne (by simpa using firstLive) (by simpa using secondLive)

theorem getElem?_exchange_toList_of_live (tracks : pending.Tracks forgotten base table)
    {event : NetEvent} (found : pending.live? key = some event) :
    (base.exchange pending.toList)[key]? = table[key]? := by
  rcases mem_toList_of_live? tracks.orderly found with ⟨listed, rfl⟩
  have arrives := NetEvent.mem_arrivals_iff.mpr ⟨listed, (live?_eq_some_iff.mp found).2⟩
  rw [Table.getElem?_exchange_of_mem (nodup_newKey_arrivals tracks.orderly) arrives]
  exact (tracks.between.live_row found).symm

theorem getElem?_exchange_toList_of_still (orderly : pending.Orderly)
    (still : pending.live? key = none) :
    (base.exchange pending.toList)[key]? =
      if key ∈ removedKeys pending.toList then none else base[key]? := by
  apply Table.getElem?_exchange_of_notMem
  intro occupied
  rcases List.mem_map.mp occupied with ⟨event, arrives, rfl⟩
  rcases NetEvent.mem_arrivals_iff.mp arrives with ⟨listed, live⟩
  rw [(mem_toList_iff_of_live orderly live).mp listed] at still
  contradiction

/-- The drained events make the old table into the new one unless a row is gone whose delete has
been forgotten. -/
theorem exchange_toList_eq_iff (tracks : pending.Tracks forgotten base table) :
    base.exchange pending.toList = table ↔
      ∀ key ∈ forgotten, key ∉ table → key ∈ removedKeys pending.toList := by
  constructor
  · intro same key wasForgotten gone
    by_contra kept
    have still := live?_eq_none_of_notMem tracks.between gone
    have stays : (base.exchange pending.toList)[key]? = base[key]? := by
      rw [getElem?_exchange_toList_of_still tracks.orderly still, if_neg kept]
    rw [same, Std.ExtTreeMap.getElem?_eq_none gone, eq_comm, getElem?_eq_none_iff] at stays
    exact stays (tracks.between.removed_base (Or.inr wasForgotten))
  · intro known
    apply Std.ExtTreeMap.ext_getElem?
    intro key
    cases found : pending.live? key with
    | some event => exact getElem?_exchange_toList_of_live tracks found
    | none =>
        have removed_iff :
            key ∈ removedKeys pending.toList ↔ key ∈ (pending.difference forgotten).vacated := by
          rw [mem_vacated_difference_iff tracks.orderly]
          constructor
          · exact Or.inl
          · rintro (removed | wasForgotten)
            · exact removed
            · apply known key wasForgotten
              intro present
              exact tracks.between.origin_kept present (Difference.origin_of_live_none found)
                (Or.inr wasForgotten)
        have decided : Decidable (key ∈ (pending.difference forgotten).vacated) :=
          decidable_of_iff _ removed_iff
        rw [getElem?_exchange_toList_of_still tracks.orderly found,
          tracks.between.getElem?_eq found]
        exact if_congr removed_iff rfl rfl

/-- After a history in which no insert arrives at the place of a delete, the drained events are
about pairwise distinct rows of the old table, leave rows behind under pairwise distinct keys, and
make the old table into the new one. -/
theorem exchange_toList_of_history (base : Table) (events : List NetEvent)
    (history : base.History events) (never : empty.NeverRecreates events) :
    ∃ pending, empty.applyAll events = .ok pending ∧
      (removedKeys pending.toList).Nodup ∧
      (∀ key ∈ removedKeys pending.toList, key ∈ base) ∧
      ((arrivals pending.toList).map NetEvent.newKey).Nodup ∧
      base.exchange pending.toList = base.replayAll events := by
  rcases applyAll_empty_of_history events history with ⟨pending, applied, tracks, _⟩
  rw [forgotten_eq_empty never] at tracks
  refine ⟨pending, applied, nodup_removedKeys tracks, ?_, nodup_newKey_arrivals tracks.orderly, ?_⟩
  · intro key removed
    exact tracks.between.vacated_base
      ((mem_vacated_difference_iff tracks.orderly).mpr (Or.inl removed))
  · rw [exchange_toList_eq_iff tracks]
    simp

/-- Here a row moves to the key of a deleted one, and a row that has left its key to a new one is
deleted, so both deletes are displaced. -/
theorem exchange_toList_of_taken_keys :
    let base : Table := ((∅ : Table).insert "1|" []).insert "2|" [] |>.insert "3|" []
    let events := [single .update "3|" "4|" 5, single .insert "3|" "3|" 6,
      single .delete "4|" "4|" 5, single .delete "1|" "1|" 7, single .update "2|" "1|" 8]
    base.History events ∧ empty.NeverRecreates events ∧
      ∃ pending, empty.applyAll events = .ok pending ∧
        (removedKeys pending.toList).Nodup ∧
        (∀ key ∈ removedKeys pending.toList, key ∈ base) ∧
        ((arrivals pending.toList).map NetEvent.newKey).Nodup ∧
        base.exchange pending.toList = base.replayAll events := by
  intro base events
  have history : base.History events := by
    simp [events, base, single, Table.History, NetEvent.Fits, NetEvent.proper_iff, Table.replay]
  have never : empty.NeverRecreates events := by
    simp [events, NeverRecreates, Recreates, single, apply, empty, store, insert, get?, put,
      NetEvent.mapKey]
  exact ⟨history, never, exchange_toList_of_history base events history never⟩

end Pending

end RowLog
