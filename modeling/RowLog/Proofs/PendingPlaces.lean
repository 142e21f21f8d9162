import Mathlib.Data.Set.Insert
import Mathlib.Logic.Function.Basic
import RowLog.Proofs.NetEvent

/-!
# The places of pending events

Every pending event has its place under its own key, except that a delete is displaced when a row
takes its place. What matters later is not the place of an event but which rows are left behind,
`Pending.live?`, and which keys have a delete, `Pending.deletes`. The invariant `Pending.Orderly`
says that the places are right and that no key has two deletes. For each operation on the places
there is one lemma on what it does to the invariant, the live rows and the deletes together;
`store_live` and `store_delete` are the two that settle every dispute about a place.
-/

namespace RowLog

namespace Pending

/-- The event under a key that leaves a row there. -/
def live? (pending : Pending) (key : String) : Option NetEvent :=
  (pending.get? key).filter fun event => event.kind ≠ .delete

/-- The keys of the pending deletes, in their places or out of them. -/
def deletes (pending : Pending) : Set String :=
  {key | (∃ event, pending.get? key = some event ∧ event.kind = .delete) ∨
    ∃ event ∈ pending.displaced, event.oldKey = key}

/-- Whether everything that is stored under a key has this key as its own. -/
def IsPlaced (pending : Pending) : Prop :=
  ∀ ⦃key event⦄, pending.get? key = some event → event.mapKey = key

/-- Whether every pending event is in its place, and no key has two deletes. -/
structure Orderly (pending : Pending) : Prop where
  proper : ∀ {key event}, pending.get? key = some event → event.Proper
  placed : ∀ {key event}, pending.get? key = some event → event.mapKey = key
  displaced_delete : ∀ {event}, event ∈ pending.displaced → event.kind = .delete
  displaced_nodup : (pending.displaced.map NetEvent.oldKey).Nodup
  displaced_apart : ∀ {event other}, event ∈ pending.displaced →
    pending.get? event.oldKey = some other → other.kind ≠ .delete

/-- Whether the pending events are orderly and stand for given live rows and deletes. -/
structure StandsFor (pending : Pending) (live : String → Option NetEvent) (deletes : Set String) :
    Prop where
  orderly : pending.Orderly
  live_eq : pending.live? = live
  deletes_eq : pending.deletes = deletes

section Places

variable (pending : Pending) (event : NetEvent) (key place : String)

@[simp]
theorem get?_empty : empty.get? key = none := by
  simp [get?, empty]

@[simp]
theorem get?_put :
    (pending.put event).get? key = if event.mapKey = key then some event else pending.get? key := by
  simp [get?, put, Std.ExtTreeMap.getElem?_insert]

@[simp]
theorem get?_erase :
    (pending.erase place).get? key = if place = key then none else pending.get? key := by
  simp [get?, erase, Std.ExtTreeMap.getElem?_erase]

@[simp]
theorem get?_displace : (pending.displace event).get? key = pending.get? key := rfl

@[simp]
theorem get?_countInvalid (transition : Transition) :
    (pending.countInvalid transition).get? key = pending.get? key := by
  unfold countInvalid
  split <;> rfl

@[simp]
theorem displaced_countInvalid (transition : Transition) :
    (pending.countInvalid transition).displaced = pending.displaced := by
  unfold countInvalid
  split <;> rfl

@[simp]
theorem displaced_put : (pending.put event).displaced = pending.displaced := rfl

@[simp]
theorem displaced_erase : (pending.erase place).displaced = pending.displaced := rfl

@[simp]
theorem displaced_displace :
    (pending.displace event).displaced = pending.displaced ++ [event] := rfl

end Places

variable {pending : Pending} {event : NetEvent} {key place : String}

theorem isPlaced_empty : empty.IsPlaced := by
  intro key event found
  simp at found

theorem IsPlaced.erase (isPlaced : pending.IsPlaced) (place : String) :
    (pending.erase place).IsPlaced := by
  intro key event found
  rw [get?_erase, Option.ite_none_left_eq_some] at found
  exact isPlaced found.2

theorem IsPlaced.put (isPlaced : pending.IsPlaced) (event : NetEvent) :
    (pending.put event).IsPlaced := by
  intro key other found
  rw [get?_put] at found
  split at found
  · next here => exact Option.some.inj found ▸ here
  · exact isPlaced found

theorem Orderly.isPlaced (orderly : pending.Orderly) : pending.IsPlaced := by
  intro key event found
  exact orderly.placed found

theorem live?_eq_some_iff :
    pending.live? key = some event ↔ pending.get? key = some event ∧ event.kind ≠ .delete := by
  simp [live?, Option.filter_eq_some_iff]

theorem live?_eq_none_iff :
    pending.live? key = none ↔ ∀ event, pending.get? key = some event → event.kind = .delete := by
  simp [live?, Option.filter_eq_none_iff]

theorem Orderly.oldKey_eq (orderly : pending.Orderly) (found : pending.get? key = some event)
    (isDelete : event.kind = .delete) : event.oldKey = key := by
  rw [← NetEvent.mapKey_of_delete isDelete, orderly.placed found]

theorem Orderly.notMem_displaced (orderly : pending.Orderly) (found : pending.get? key = some event)
    (isDelete : event.kind = .delete) : key ∉ pending.displaced.map NetEvent.oldKey := by
  intro displaced
  rcases List.mem_map.mp displaced with ⟨other, otherMem, rfl⟩
  exact orderly.displaced_apart otherMem found isDelete

theorem Orderly.erase (orderly : pending.Orderly) (place : String) :
    (pending.erase place).Orderly where
  proper := by
    intro key event found
    rw [get?_erase, Option.ite_none_left_eq_some] at found
    exact orderly.proper found.2
  placed := fun found => orderly.isPlaced.erase place found
  displaced_delete := orderly.displaced_delete
  displaced_nodup := orderly.displaced_nodup
  displaced_apart := by
    intro event other displaced found
    rw [get?_erase, Option.ite_none_left_eq_some] at found
    exact orderly.displaced_apart displaced found.2

theorem Orderly.put (orderly : pending.Orderly) (proper : event.Proper)
    (apart : event.kind = .delete → event.oldKey ∉ pending.displaced.map NetEvent.oldKey) :
    (pending.put event).Orderly where
  proper := by
    intro key other found
    rw [get?_put] at found
    split at found
    · exact Option.some.inj found ▸ proper
    · exact orderly.proper found
  placed := fun found => orderly.isPlaced.put event found
  displaced_delete := orderly.displaced_delete
  displaced_nodup := orderly.displaced_nodup
  displaced_apart := by
    intro displaced other displacedMem found isDelete
    rw [get?_put] at found
    split at found
    · next here =>
        rw [Option.some.injEq] at found
        subst found
        rw [NetEvent.mapKey_of_delete isDelete] at here
        exact apart isDelete (here ▸ List.mem_map_of_mem displacedMem)
    · exact orderly.displaced_apart displacedMem found isDelete

theorem Orderly.displace (orderly : pending.Orderly) (isDelete : event.kind = .delete)
    (apart : event.oldKey ∉ pending.deletes) : (pending.displace event).Orderly where
  proper := orderly.proper
  placed := orderly.placed
  displaced_delete := by
    intro other otherMem
    rw [displaced_displace, List.mem_append, List.mem_singleton] at otherMem
    rcases otherMem with before | rfl
    · exact orderly.displaced_delete before
    · exact isDelete
  displaced_nodup := by
    rw [displaced_displace, List.map_append, List.nodup_append]
    refine ⟨orderly.displaced_nodup, by simp, ?_⟩
    intro key keyMem other otherMem same
    subst same
    simp only [List.map_cons, List.map_nil, List.mem_singleton] at otherMem
    subst otherMem
    exact apart (Or.inr (List.mem_map.mp keyMem))
  displaced_apart := by
    intro displaced other displacedMem found otherDelete
    rw [displaced_displace, List.mem_append, List.mem_singleton] at displacedMem
    rcases displacedMem with before | rfl
    · exact orderly.displaced_apart before found otherDelete
    · exact apart (Or.inl ⟨other, found, otherDelete⟩)

theorem standsFor_erase_live (orderly : pending.Orderly)
    (found : pending.live? place = some event) :
    (pending.erase place).StandsFor (Function.update pending.live? place none) pending.deletes where
  orderly := orderly.erase place
  live_eq := by
    funext key
    simp only [live?, get?_erase, Function.update_apply]
    grind
  deletes_eq := by
    ext key
    rw [live?_eq_some_iff] at found
    simp only [deletes, get?_erase, displaced_erase, Set.mem_ofPred_eq]
    grind

theorem standsFor_erase_delete (orderly : pending.Orderly)
    (found : pending.get? place = some event) (isDelete : event.kind = .delete) :
    (pending.erase place).StandsFor pending.live? (pending.deletes \ {place}) where
  orderly := orderly.erase place
  live_eq := by
    funext key
    simp only [live?, get?_erase]
    grind
  deletes_eq := by
    ext key
    have notDisplaced := orderly.notMem_displaced found isDelete
    simp only [deletes, get?_erase, displaced_erase, Set.mem_ofPred_eq, Set.mem_sdiff,
      Set.mem_singleton_iff]
    grind

/-- An occupant that is displaced might as well be taken out of its place first. -/
theorem put_displace_erase (pending : Pending) (event occupant : NetEvent) :
    ((pending.erase event.mapKey).displace occupant).put event =
      (pending.displace occupant).put event := by
  have entries : (pending.entries.erase event.mapKey).insert event.mapKey event =
      pending.entries.insert event.mapKey event := by
    apply Std.ExtTreeMap.ext_getElem?
    intro key
    simp only [Std.ExtTreeMap.getElem?_insert, Std.ExtTreeMap.getElem?_erase]
    grind
  simp [put, displace, erase, entries]

theorem store_of_get?_eq_none (free : pending.get? event.mapKey = none) (transition : Transition) :
    pending.store event transition = (pending.put event, .ok transition) := by
  simp [store, insert, free]

section Occupied

variable {occupant : NetEvent} (found : pending.get? event.mapKey = some occupant)

include found

theorem store_over_delete (occupantDelete : occupant.kind = .delete) (transition : Transition) :
    pending.store event transition = ((pending.displace occupant).put event, .ok transition) := by
  simp [store, insert, found, occupantDelete]

theorem store_delete_under_live (live : occupant.kind ≠ .delete) (isDelete : event.kind = .delete)
    (transition : Transition) :
    pending.store event transition = (pending.displace event, .ok transition) := by
  simp [store, insert, found, live, isDelete]

theorem store_of_conflict (live : occupant.kind ≠ .delete) (eventLive : event.kind ≠ .delete)
    (transition : Transition) :
    pending.store event transition =
      (pending, .error ⟨event.schema, event.table, event.mapKey⟩) := by
  simp [store, insert, found, live, eventLive]

end Occupied

/-- An event that leaves a row behind finds a place wherever no other row is. A delete that has the
place is displaced. -/
theorem store_live (orderly : pending.Orderly) (proper : event.Proper)
    (live : event.kind ≠ .delete) (vacant : pending.live? event.newKey = none)
    (transition : Transition) :
    ∃ next, pending.store event transition = (next, .ok transition) ∧
      next.StandsFor (Function.update pending.live? event.newKey (some event))
        pending.deletes := by
  have mapKey := NetEvent.mapKey_of_ne_delete live
  rw [live?_eq_none_iff] at vacant
  cases found : pending.get? event.newKey with
  | none =>
      refine ⟨pending.put event, store_of_get?_eq_none (by rwa [mapKey]) transition, ?_, ?_, ?_⟩
      · exact orderly.put proper (fun isDelete => absurd isDelete live)
      · funext key
        simp only [live?, get?_put, mapKey, Function.update_apply]
        grind
      · ext key
        simp only [deletes, get?_put, mapKey, displaced_put, Set.mem_ofPred_eq]
        grind
  | some occupant =>
      have isDelete := vacant occupant found
      refine ⟨(pending.displace occupant).put event,
        store_over_delete (by rwa [mapKey]) isDelete transition, ?_, ?_, ?_⟩
      · have erased := standsFor_erase_delete orderly found isDelete
        have fresh : occupant.oldKey ∉ (pending.erase event.newKey).deletes := by
          rw [erased.deletes_eq, orderly.oldKey_eq found isDelete]
          simp
        rw [← put_displace_erase, mapKey]
        apply (erased.orderly.displace isDelete fresh).put proper
        exact fun eventDelete => absurd eventDelete live
      · funext key
        simp only [live?, get?_put, get?_displace, mapKey, Function.update_apply]
        grind
      · ext key
        have oldKey := orderly.oldKey_eq found isDelete
        simp only [deletes, get?_put, get?_displace, mapKey, displaced_put, displaced_displace,
          Set.mem_ofPred_eq]
        grind

/-- A delete of a key that has no delete yet finds a place, or is displaced by the row that is
there. -/
theorem store_delete (orderly : pending.Orderly) (proper : event.Proper)
    (isDelete : event.kind = .delete) (fresh : event.oldKey ∉ pending.deletes)
    (transition : Transition) :
    ∃ next, pending.store event transition = (next, .ok transition) ∧
      next.StandsFor pending.live? (pending.deletes ∪ {event.oldKey}) := by
  have mapKey := NetEvent.mapKey_of_delete isDelete
  cases found : pending.get? event.oldKey with
  | none =>
      refine ⟨pending.put event, store_of_get?_eq_none (by rwa [mapKey]) transition, ?_, ?_, ?_⟩
      · refine orderly.put proper ?_
        intro _ displaced
        exact fresh (Or.inr (List.mem_map.mp displaced))
      · funext key
        simp only [live?, get?_put, mapKey]
        grind
      · ext key
        simp only [deletes, get?_put, mapKey, displaced_put, Set.mem_ofPred_eq, Set.mem_union,
          Set.mem_singleton_iff]
        grind
  | some occupant =>
      have live : occupant.kind ≠ .delete := fun occupantDelete =>
        fresh (Or.inl ⟨occupant, found, occupantDelete⟩)
      refine ⟨pending.displace event,
        store_delete_under_live (by rwa [mapKey]) live isDelete transition, ?_, ?_, ?_⟩
      · exact orderly.displace isDelete fresh
      · rfl
      · ext key
        simp only [deletes, get?_displace, displaced_displace, Set.mem_ofPred_eq, Set.mem_union,
          Set.mem_singleton_iff]
        grind

theorem apply_of_get?_eq_none (free : pending.get? event.oldKey = none) :
    pending.apply event = pending.store event .added := by
  simp [apply, free]

theorem apply_of_get?_eq_some {earlier : NetEvent}
    (found : pending.get? event.oldKey = some earlier) :
    pending.apply event =
      let others := (pending.erase event.oldKey).countInvalid (earlier.merge event).2
      if (earlier.merge event).1.cancelled then (others, .ok (earlier.merge event).2)
      else others.store (earlier.merge event).1 (earlier.merge event).2 := by
  simp [apply, found]

theorem apply_of_merge_eq {earlier merged : NetEvent} {transition : Transition}
    (found : pending.get? event.oldKey = some earlier)
    (mergeEq : earlier.merge event = (merged, transition)) (valid : transition ≠ .invalid) :
    pending.apply event =
      if merged.cancelled then (pending.erase event.oldKey, .ok transition)
      else (pending.erase event.oldKey).store merged transition := by
  simp [apply, found, mergeEq, countInvalid, valid]

end Pending

end RowLog
