import RowLog.Proofs.DrainOrder
import RowLog.Proofs.LiveView

/-!
# Draining is complete and does not depend on the order of the entries

What is stored under the keys is kept in a map that may hand it back in any order. This order does
not matter: whatever events have been taken in, each stored event lies under its own key, so that no
two of them have one key, and there is only one strict order of events with different keys. That the
events lie under their own keys is one of the facts that hold because the single steps by which
events get and lose their places keep them, `Pending.IsKept`. Another one is that a delete which is
moved out of its place goes behind those that were moved before.
-/

namespace RowLog

namespace Pending

variable {pending : Pending} {event : NetEvent} {holds : Pending → Prop}

/-- Whether something that holds of pending events is kept when one of them is given a place or
loses it, when a delete is moved out of its place, and when an event is counted. -/
structure IsKept (holds : Pending → Prop) : Prop where
  put : ∀ {pending} (event : NetEvent), holds pending → holds (pending.put event)
  erase : ∀ {pending} (key : String), holds pending → holds (pending.erase key)
  displace : ∀ {pending} {event : NetEvent}, event.kind = .delete → holds pending →
    holds (pending.displace event)
  countInvalid : ∀ {pending} (transition : Transition), holds pending →
    holds (pending.countInvalid transition)

namespace IsKept

theorem store (kept : IsKept holds) (pendingHolds : holds pending) (event : NetEvent)
    (transition : Transition) : holds (pending.store event transition).1 := by
  cases found : pending.get? event.mapKey with
  | none =>
      rw [store_of_get?_eq_none found]
      exact kept.put event pendingHolds
  | some occupant =>
      by_cases occupantDelete : occupant.kind = .delete
      · rw [store_over_delete found occupantDelete]
        exact kept.put event (kept.displace occupantDelete pendingHolds)
      · by_cases isDelete : event.kind = .delete
        · rw [store_delete_under_live found occupantDelete isDelete]
          exact kept.displace isDelete pendingHolds
        · rw [store_of_conflict found occupantDelete isDelete]
          exact pendingHolds

theorem apply (kept : IsKept holds) (pendingHolds : holds pending) (event : NetEvent) :
    holds (pending.apply event).1 := by
  cases found : pending.get? event.oldKey with
  | none =>
      rw [apply_of_get?_eq_none found]
      exact kept.store pendingHolds event .added
  | some earlier =>
      have others := kept.countInvalid (earlier.merge event).2 (kept.erase event.oldKey pendingHolds)
      rw [apply_of_get?_eq_some found]
      dsimp only
      split
      · exact others
      · exact kept.store others _ _

/-- What is kept when events are taken in, and holds after every drain, holds after all steps. -/
theorem run (kept : IsKept holds) (steps : List Step)
    (drained : Step.drain ∈ steps → ∀ pending : Pending, holds pending.drain.2)
    (pendingHolds : holds pending) : holds (pending.run steps).2 := by
  induction steps generalizing pending with
  | nil => exact pendingHolds
  | cons step rest ih =>
      have drainedLater : Step.drain ∈ rest → ∀ pending : Pending, holds pending.drain.2 :=
        fun drainMem => drained (List.mem_cons_of_mem step drainMem)
      cases step with
      | take event => exact ih drainedLater (kept.apply pendingHolds event)
      | drain => exact ih drainedLater (drained List.mem_cons_self pending)

end IsKept

theorem isKept_isPlaced : IsKept IsPlaced where
  put event isPlaced := isPlaced.put event
  erase key isPlaced := isPlaced.erase key
  displace _ isPlaced := isPlaced
  countInvalid transition isPlaced := by
    intro key event found
    rw [get?_countInvalid] at found
    exact isPlaced found

theorem isKept_prefix_displaced (before : List NetEvent) :
    IsKept fun pending => before <+: pending.displaced where
  put _ first := first
  erase _ first := first
  displace _ first := first.trans (List.prefix_append _ _)
  countInvalid transition first := by
    rw [displaced_countInvalid]
    exact first

theorem isPlaced_drain (pending : Pending) : pending.drain.2.IsPlaced := by
  intro key event found
  simp [drain, get?] at found

theorem isPlaced_run (steps : List Step) (isPlaced : pending.IsPlaced) :
    (pending.run steps).2.IsPlaced :=
  isKept_isPlaced.run steps (fun _ => isPlaced_drain) isPlaced

/-- Deletes that are moved out of their places go behind those that were moved before. -/
theorem displaced_prefix_run {steps : List Step} (notDrained : Step.drain ∉ steps) :
    pending.displaced <+: (pending.run steps).2.displaced :=
  (isKept_prefix_displaced pending.displaced).run steps
    (fun drainMem => absurd drainMem notDrained) List.prefix_rfl

/-- Whether a list holds everything that is stored under a key, each once, in any order. -/
structure Enumerates (pending : Pending) (entries : List (String × NetEvent)) : Prop where
  nodup : entries.Nodup
  mem_iff : ∀ {key event}, (key, event) ∈ entries ↔ pending.get? key = some event

variable {entries : List (String × NetEvent)}

namespace Enumerates

theorem of_perm_toList (perm : entries.Perm pending.entries.toList) :
    pending.Enumerates entries where
  nodup := by
    apply perm.nodup_iff.mpr
    apply Std.ExtTreeMap.distinct_keys_toList.imp
    rintro first second keysNe rfl
    simp at keysNe
  mem_iff := perm.mem_iff.trans Std.ExtTreeMap.mem_toList_iff_getElem?_eq_some

theorem perm_toList (enumerates : pending.Enumerates entries) :
    entries.Perm pending.entries.toList := by
  have stored : pending.Enumerates pending.entries.toList := of_perm_toList (.refl _)
  apply (List.perm_ext_iff_of_nodup enumerates.nodup stored.nodup).mpr
  rintro ⟨key, event⟩
  exact enumerates.mem_iff.trans stored.mem_iff.symm

theorem perm_values (enumerates : pending.Enumerates entries) :
    (entries.map Prod.snd).Perm pending.entries.values := by
  rw [values_eq_map_toList]
  exact enumerates.perm_toList.map Prod.snd

theorem pairwise_mapKey_ne (enumerates : pending.Enumerates entries)
    (isPlaced : pending.IsPlaced) :
    (entries.map Prod.snd).Pairwise fun first second => first.mapKey ≠ second.mapKey :=
  (enumerates.perm_values.pairwise_iff fun differ => Ne.symm differ).mpr
    (pairwise_values_mapKey_ne isPlaced)

/-- The entries are drained in the same order in whatever order they are enumerated. -/
theorem toList_eq (enumerates : pending.Enumerates entries) (isPlaced : pending.IsPlaced) :
    pending.toList = pending.displaced ++ (entries.map Prod.snd).mergeSort drainsBefore := by
  have sameEvents : (pending.entries.values.mergeSort drainsBefore).Perm
      ((entries.map Prod.snd).mergeSort drainsBefore) := by
    apply (List.mergeSort_perm _ _).trans
    apply enumerates.perm_values.symm.trans
    exact (List.mergeSort_perm _ _).symm
  have sameOrder := eq_of_perm_of_drainsFirst sameEvents
    (pairwise_drainsFirst (pairwise_values_mapKey_ne isPlaced))
    (pairwise_drainsFirst (enumerates.pairwise_mapKey_ne isPlaced))
  rw [toList, sameOrder]

/-- What is drained after the displaced deletes is every entry once. -/
theorem perm_mergeSort (enumerates : pending.Enumerates entries) (isPlaced : pending.IsPlaced) :
    (((entries.map Prod.snd).mergeSort drainsBefore).map fun event => (event.mapKey, event)).Perm
      entries := by
  have keyed : (entries.map Prod.snd).map (fun event => (event.mapKey, event)) = entries :=
    calc (entries.map Prod.snd).map (fun event => (event.mapKey, event))
        = entries.map id := by
          rw [List.map_map]
          apply List.map_congr_left
          rintro ⟨key, event⟩ entryMem
          exact Prod.ext (isPlaced (enumerates.mem_iff.mp entryMem)) rfl
      _ = entries := List.map_id _
  exact ((List.mergeSort_perm _ _).map _).trans (.of_eq keyed)

end Enumerates

theorem drain_drain (pending : Pending) : pending.drain.2.drain.1 = [] := by
  have nothing : pending.drain.2.entries.values = [] := rfl
  rw [drain, toList, nothing, List.mergeSort_nil]
  rfl

/-- After any steps, and in whatever order the entries are enumerated, what is drained are the
displaced deletes in the order in which they were displaced, and then every entry once, in the only
strict order that there is. Nothing is left for a second drain. -/
theorem drain_run_of_enumerates (steps : List Step)
    (enumerates : (empty.run steps).2.Enumerates entries) :
    let pending := (empty.run steps).2
    let sorted := (entries.map Prod.snd).mergeSort drainsBefore
    pending.drain.1 = pending.displaced ++ sorted ∧
      (∀ before after, before ++ after = steps → .drain ∉ after →
        (empty.run before).2.displaced <+: pending.displaced) ∧
      (sorted.map fun event => (event.mapKey, event)).Perm entries ∧
      (sorted.map NetEvent.mapKey).Nodup ∧
      sorted.Pairwise DrainsFirst ∧
      (∀ others : List NetEvent, others.Perm sorted → others.Pairwise DrainsFirst →
        others = sorted) ∧
      pending.drain.2.size = 0 ∧ pending.drain.2.drain.1 = [] := by
  intro pending sorted
  have isPlaced : pending.IsPlaced := isPlaced_run steps isPlaced_empty
  have keysNe := enumerates.pairwise_mapKey_ne isPlaced
  have strict : sorted.Pairwise DrainsFirst := pairwise_drainsFirst keysNe
  refine ⟨enumerates.toList_eq isPlaced, ?_, enumerates.perm_mergeSort isPlaced, ?_, strict, ?_, ?_,
    drain_drain pending⟩
  · rintro before after rfl notDrained
    simp only [pending, run_append]
    exact displaced_prefix_run notDrained
  · apply ((List.mergeSort_perm _ _).map NetEvent.mapKey).nodup_iff.mpr
    exact List.pairwise_map.mpr keysNe
  · exact fun others perm otherStrict => eq_of_perm_of_drainsFirst perm otherStrict strict
  · rfl

/-- A row moves to the key of a deleted one after a drain, and the entries are enumerated in an
order that is not theirs. -/
theorem drain_run_of_enumerates_of_taken_key :
    let steps : List Step := [.take (.single .insert "5|" "5|" 1), .drain,
      .take (.single .delete "1|" "1|" 5), .take (.single .update "2|" "1|" 6),
      .take (.single .insert "3|" "3|" 7), .take (.single .delete "4|" "4|" 2)]
    let entries : List (String × NetEvent) := [("3|", .single .insert "3|" "3|" 7),
      ("1|", .single .update "2|" "1|" 6), ("4|", .single .delete "4|" "4|" 2)]
    (empty.run steps).2.Enumerates entries ∧
      (empty.run steps).2.drain.1 = [.single .delete "1|" "1|" 5, .single .delete "4|" "4|" 2,
        .single .update "2|" "1|" 6, .single .insert "3|" "3|" 7] := by
  intro steps entries
  have stored : (empty.run steps).2.entries.toList = [("1|", .single .update "2|" "1|" 6),
      ("3|", .single .insert "3|" "3|" 7), ("4|", .single .delete "4|" "4|" 2)] := rfl
  have enumerates : (empty.run steps).2.Enumerates entries := by
    apply Enumerates.of_perm_toList
    rw [stored]
    exact .swap _ _ _
  rcases drain_run_of_enumerates steps enumerates with ⟨drained, _, _, _, _, unique, _⟩
  have inOrder := unique
    [.single .delete "4|" "4|" 2, .single .update "2|" "1|" 6, .single .insert "3|" "3|" 7]
    ((List.reverse_perm (entries.map Prod.snd)).trans (List.mergeSort_perm _ _).symm)
    (by simp [NetEvent.single, DrainsFirst, rank])
  refine ⟨enumerates, ?_⟩
  rw [drained, ← inOrder]
  rfl

end Pending

end RowLog
