import RowLog.Proofs.ReplayOrder

/-!
# Rows that keep their keys

As long as no update changes the key of its row, every pending event has its place and none is
ever moved out of it, so the drained events can be replayed one at a time. What the replay can
still miss is a forgotten delete: a row that was deleted, created again and deleted again leaves
nothing behind that is pending. The main statement is that the replay of the drained events and
that of the history differ for this reason only.
-/

namespace RowLog

namespace NetEvent

/-- Whether an event is about a row that has a given key before and after it. -/
def Keeps (event : NetEvent) (key : String) : Prop :=
  event.oldKey = key ∧ event.newKey = key

variable {earlier event : NetEvent} {key : String}

theorem mapKey_of_keeps (keeps : event.Keeps key) : event.mapKey = key := by
  rcases keeps with ⟨oldKey, newKey⟩
  cases kind : event.kind with
  | insert => simpa [mapKey, kind] using newKey
  | update => simpa [mapKey, kind] using newKey
  | delete => simpa [mapKey, kind] using oldKey

theorem keeps_merge (earlierKeeps : earlier.Keeps key) (keeps : event.Keeps key) :
    (earlier.merge event).1.Keeps key := by
  rcases earlierKeeps with ⟨earlierOld, earlierNew⟩
  rcases keeps with ⟨oldKey, newKey⟩
  cases earlierKind : earlier.kind <;> cases kind : event.kind <;>
    simp [merge, Keeps, earlierKind, kind, earlierOld, earlierNew, oldKey, newKey]

end NetEvent

open NetEvent (removedKeys arrivals ReplaySafe Undisturbed single)

namespace Pending

/-- Whether no pending event is out of its place and none changes the key of its row. -/
structure Unmoved (pending : Pending) : Prop where
  displaced_eq : pending.displaced = []
  keeps : ∀ {key event}, pending.get? key = some event → event.Keeps key

variable {pending : Pending} {event : NetEvent} {key : String}

theorem Unmoved.erase (unmoved : pending.Unmoved) (place : String) :
    (pending.erase place).Unmoved where
  displaced_eq := unmoved.displaced_eq
  keeps := by
    intro key event found
    rw [get?_erase, Option.ite_none_left_eq_some] at found
    exact unmoved.keeps found.2

theorem Unmoved.countInvalid (unmoved : pending.Unmoved) (transition : Transition) :
    (pending.countInvalid transition).Unmoved where
  displaced_eq := (displaced_countInvalid pending transition).trans unmoved.displaced_eq
  keeps := by
    intro place other found
    rw [get?_countInvalid] at found
    exact unmoved.keeps found

theorem Unmoved.store (unmoved : pending.Unmoved) (keeps : event.Keeps key)
    (free : pending.get? key = none) (transition : Transition) :
    (pending.store event transition).1.Unmoved := by
  have mapKey := NetEvent.mapKey_of_keeps keeps
  rw [store_of_get?_eq_none (by rwa [mapKey])]
  refine ⟨unmoved.displaced_eq, ?_⟩
  intro place other found
  rw [get?_put] at found
  split at found
  · next here =>
      rw [Option.some.injEq] at found
      rw [← found, ← here, mapKey]
      exact keeps
  · exact unmoved.keeps found

/-- An event that does not change the key of its row finds its place free, or merges with the one
that has it. -/
theorem Unmoved.apply (unmoved : pending.Unmoved) (fixed : event.newKey = event.oldKey) :
    (pending.apply event).1.Unmoved := by
  have keeps : event.Keeps event.oldKey := ⟨rfl, fixed⟩
  cases found : pending.get? event.oldKey with
  | none =>
      rw [apply_of_get?_eq_none found]
      exact unmoved.store keeps found .added
  | some earlier =>
      have others := (unmoved.erase event.oldKey).countInvalid (earlier.merge event).2
      have free :
          ((pending.erase event.oldKey).countInvalid (earlier.merge event).2).get? event.oldKey =
            none := by
        rw [get?_countInvalid, get?_erase, if_pos rfl]
      rw [apply_of_get?_eq_some found]
      dsimp only
      split
      · exact others
      · exact others.store (NetEvent.keeps_merge (unmoved.keeps found) keeps) free _

theorem unmoved_empty : empty.Unmoved where
  displaced_eq := rfl
  keeps := by simp

variable {forgotten : Set String} {base table : Table}

theorem Unmoved.oldKey_eq_newKey (unmoved : pending.Unmoved) (orderly : pending.Orderly)
    (listed : event ∈ pending.toList) : event.oldKey = event.newKey := by
  rw [mem_toList_iff orderly, unmoved.displaced_eq] at listed
  rcases listed with displaced | found
  · simp at displaced
  · rcases unmoved.keeps found with ⟨oldKey, newKey⟩
    rw [oldKey, newKey]

theorem Unmoved.replaySafe (unmoved : pending.Unmoved) (orderly : pending.Orderly) :
    ReplaySafe pending.toList := by
  apply (pairwise_toList orderly).imp_of_mem
  intro earlier later _ laterMem before live leaves
  rcases before.updates live leaves with ⟨_, laterUpdate⟩
  rw [unmoved.oldKey_eq_newKey orderly laterMem]
  exact before.lives_ne live (by simp [laterUpdate])

theorem Unmoved.eq_of_origin (unmoved : pending.Unmoved) {place old : String}
    (originEq : (pending.difference forgotten).origin place = some old) : place = old := by
  rcases Difference.origin_eq_some_iff.mp originEq with ⟨_, same⟩ | ⟨event, found, _, rfl⟩
  · exact same
  · exact (unmoved.keeps (live?_eq_some_iff.mp found).1).1.symm

/-- An insert makes the pending events forget a delete, or has made them forget it before, if the
key had a row in the old table. -/
theorem mem_forgotten_recreated_iff (tracks : pending.Tracks forgotten base table)
    (unmoved : pending.Unmoved) (fits : event.Fits table) :
    key ∈ forgotten ∪ pending.recreated event ↔
      key ∈ forgotten ∨ key ∈ base ∧ event.kind = .insert ∧ event.oldKey = key := by
  constructor
  · rintro (wasForgotten | recreated)
    · exact Or.inl wasForgotten
    · have deleted := recreated_subset_deletes recreated
      rcases recreated with ⟨⟨isInsert, _⟩, same⟩
      exact Or.inr ⟨tracks.between.removed_base (Or.inl deleted), isInsert, same⟩
  · rintro (wasForgotten | ⟨old, isInsert, rfl⟩)
    · exact Or.inl wasForgotten
    · have absent := fits.2
      simp only [isInsert] at absent
      -- The old row is gone, so its delete is pending in its place or has been forgotten.
      have removed : event.oldKey ∈ (pending.difference forgotten).removed := by
        by_contra kept
        rcases tracks.between.exists_origin old kept with ⟨place, present, originEq⟩
        exact absent (unmoved.eq_of_origin originEq ▸ present)
      rcases removed with (⟨earlier, found, isDelete⟩ | ⟨earlier, displaced, _⟩) | wasForgotten
      · exact Or.inr ⟨⟨isInsert, earlier, found, isDelete⟩, rfl⟩
      · simp [unmoved.displaced_eq] at displaced
      · exact Or.inl wasForgotten

/-- Over a history, the forgotten deletes are those of the old rows whose keys are inserted again.
-/
theorem mem_forgotten_iff (events : List NetEvent) (tracks : pending.Tracks forgotten base table)
    (unmoved : pending.Unmoved) (history : table.History events)
    (fixed : ∀ event ∈ events, event.newKey = event.oldKey) :
    key ∈ forgotten ∪ pending.forgotten events ↔
      key ∈ forgotten ∨
        key ∈ base ∧ ∃ event ∈ events, event.kind = .insert ∧ event.oldKey = key := by
  induction events generalizing pending forgotten table with
  | nil => simp [Pending.forgotten]
  | cons event rest ih =>
      rcases history with ⟨fits, later⟩
      rcases exists_apply_tracks tracks fits with ⟨next, transition, applied, _, nextTracks, _⟩
      rcases List.forall_mem_cons.mp fixed with ⟨firstFixed, restFixed⟩
      have nextUnmoved := unmoved.apply firstFixed
      rw [applied] at nextUnmoved
      rw [Pending.forgotten, applied, ← Set.union_assoc, ih nextTracks nextUnmoved later restFixed,
        mem_forgotten_recreated_iff tracks unmoved fits]
      simp only [List.mem_cons, exists_eq_or_imp, or_assoc, ← and_or_left]

theorem Unmoved.applyAll {final : Pending} (events : List NetEvent) (unmoved : pending.Unmoved)
    (fixed : ∀ event ∈ events, event.newKey = event.oldKey)
    (applied : pending.applyAll events = .ok final) : final.Unmoved := by
  induction events generalizing pending with
  | nil =>
      rw [Pending.applyAll, Except.ok.injEq] at applied
      exact applied ▸ unmoved
  | cons event rest ih =>
      rcases List.forall_mem_cons.mp fixed with ⟨firstFixed, restFixed⟩
      have nextUnmoved := unmoved.apply firstFixed
      rw [Pending.applyAll] at applied
      split at applied
      · next next transition appliedFirst =>
          rw [appliedFirst] at nextUnmoved
          exact ih nextUnmoved restFixed applied
      · contradiction

/-- The drained events can be replayed one at a time, and this makes the old table into the new
one if all the rows are still there whose deletes have been forgotten. -/
theorem replayAll_toList_eq_iff (tracks : pending.Tracks forgotten base table)
    (unmoved : pending.Unmoved) :
    base.replayAll pending.toList = table ↔ ∀ key ∈ forgotten, key ∈ table := by
  have undisturbed := undisturbed_toList tracks.orderly (unmoved.replaySafe tracks.orderly)
  rw [Table.replayAll_eq_exchange undisturbed, exchange_toList_eq_iff tracks]
  constructor
  · intro known key wasForgotten
    by_contra gone
    rcases NetEvent.mem_removedKeys_iff.mp (known key wasForgotten gone) with
      ⟨event, listed, leaves, rfl⟩
    cases kind : event.kind with
    | insert => exact leaves kind
    | update =>
        rw [unmoved.oldKey_eq_newKey tracks.orderly listed] at gone
        exact gone (origin_of_mem_toList tracks listed kind).1
    | delete =>
        have deleted := (mem_deletes_iff tracks.orderly).mpr ⟨event, listed, kind, rfl⟩
        exact tracks.apart deleted wasForgotten
  · intro present key wasForgotten gone
    exact absurd (present key wasForgotten) gone

/-- After a history in which no update changes the key of its row, replaying the drained events
makes the same table as replaying the history unless an old row has been inserted again and is
gone. -/
theorem replayAll_drain_eq_iff_of_history (base : Table) (events : List NetEvent)
    (history : base.History events)
    (fixed : ∀ event ∈ events, event.kind = .update → event.newKey = event.oldKey) :
    ∃ pending, empty.applyAll events = .ok pending ∧
      (base.replayAll pending.drain.1 = base.replayAll events ↔
        ∀ event ∈ events, event.kind = .insert → event.oldKey ∈ base →
          event.oldKey ∈ base.replayAll events) := by
  have allFixed : ∀ event ∈ events, event.newKey = event.oldKey := by
    intro event eventMem
    by_cases isUpdate : event.kind = .update
    · exact fixed event eventMem isUpdate
    · exact (history.proper event eventMem).newKey_eq isUpdate
  have forgotten_iff : ∀ key, key ∈ empty.forgotten events ↔
      key ∈ base ∧ ∃ event ∈ events, event.kind = .insert ∧ event.oldKey = key := by
    intro key
    simpa using mem_forgotten_iff events (tracks_empty base) unmoved_empty history allFixed
  rcases applyAll_empty_of_history events history with ⟨pending, applied, tracks, _⟩
  have unmoved := unmoved_empty.applyAll events allFixed applied
  refine ⟨pending, applied, (replayAll_toList_eq_iff tracks unmoved).trans ?_⟩
  constructor
  · intro present event eventMem isInsert old
    have wasForgotten := (forgotten_iff event.oldKey).mpr ⟨old, event, eventMem, isInsert, rfl⟩
    exact present event.oldKey wasForgotten
  · intro present key wasForgotten
    rcases (forgotten_iff key).mp wasForgotten with ⟨old, event, eventMem, isInsert, rfl⟩
    exact present event eventMem isInsert old

/-- A row that is deleted, inserted again and kept. -/
theorem replayAll_drain_eq_iff_of_row_kept :
    let base : Table := (∅ : Table).insert "1|" []
    let events := [single .delete "1|" "1|" 5, single .insert "1|" "1|" 6]
    base.History events ∧
      (∀ event ∈ events, event.kind = .update → event.newKey = event.oldKey) ∧
      ∃ pending, empty.applyAll events = .ok pending ∧
        (base.replayAll pending.drain.1 = base.replayAll events ↔
          ∀ event ∈ events, event.kind = .insert → event.oldKey ∈ base →
            event.oldKey ∈ base.replayAll events) := by
  intro base events
  have history : base.History events := by
    simp [events, base, single, Table.History, NetEvent.Fits, NetEvent.proper_iff, Table.replay]
  have fixed : ∀ event ∈ events, event.kind = .update → event.newKey = event.oldKey := by
    simp [events, single]
  exact ⟨history, fixed, replayAll_drain_eq_iff_of_history base events history fixed⟩

/-- A row that is deleted, inserted again and deleted again: nothing is drained, and so the row is
still there after the replay. -/
theorem replayAll_drain_ne_of_row_gone :
    let base : Table := (∅ : Table).insert "1|" []
    let events := [single .delete "1|" "1|" 5, single .insert "1|" "1|" 6,
      single .delete "1|" "1|" 6]
    base.History events ∧
      (∀ event ∈ events, event.kind = .update → event.newKey = event.oldKey) ∧
      ∃ pending, empty.applyAll events = .ok pending ∧ pending.drain.1 = [] ∧
        (base.replayAll pending.drain.1)["1|"]? ≠ (base.replayAll events)["1|"]? := by
  intro base events
  have history : base.History events := by
    simp [events, base, single, Table.History, NetEvent.Fits, NetEvent.proper_iff, Table.replay]
  have fixed : ∀ event ∈ events, event.kind = .update → event.newKey = event.oldKey := by
    simp [events, single]
  let deleted := empty.put (single .delete "1|" "1|" 5)
  let inserted := (deleted.erase "1|").put (single .insert "1|" "1|" 6)
  have applied : empty.applyAll events = .ok (inserted.erase "1|") := by
    simp [events, inserted, deleted, applyAll, apply, single, store, insert, NetEvent.mapKey,
      NetEvent.merge, countInvalid]
  have drained : (inserted.erase "1|").drain.1 = [] := by
    cbv
  refine ⟨history, fixed, inserted.erase "1|", applied, drained, ?_⟩
  rw [drained]
  simp [events, base, single, Table.replay]

end Pending

end RowLog
