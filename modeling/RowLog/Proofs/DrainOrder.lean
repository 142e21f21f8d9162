import Mathlib.Data.List.Permutation
import RowLog.Proofs.PendingDifference

/-!
# The order of drained events

`Pending.toList` lists the pending events for a replay. Here are the things that later proofs use of
it: which events are in the list, that events with different keys have only one order, which is
strict (`Pending.DrainsFirst`), and how an earlier event of the list differs from a later one, which
is `Pending.ComesBefore`.
-/

namespace RowLog

theorem values_eq_map_toList {β : Type} (entries : Std.ExtTreeMap String β) :
    entries.values = entries.toList.map Prod.snd := by
  have fold : entries.values = entries.foldr (fun _ value rest => value :: rest) [] := by
    obtain ⟨⟨tree⟩⟩ := entries
    rfl
  rw [fold, Std.ExtTreeMap.foldr_eq_foldr_toList]
  induction entries.toList with
  | nil => rfl
  | cons entry rest ih => simp [ih]

namespace Pending

variable {pending : Pending} {event : NetEvent} {key : String}

theorem mem_values_iff (isPlaced : pending.IsPlaced) :
    event ∈ pending.entries.values ↔ pending.get? event.mapKey = some event := by
  rw [values_eq_map_toList, List.mem_map]
  constructor
  · rintro ⟨⟨place, occupant⟩, entryMem, rfl⟩
    have found : pending.get? place = some occupant :=
      Std.ExtTreeMap.mem_toList_iff_getElem?_eq_some.mp entryMem
    rw [isPlaced found]
    exact found
  · intro found
    exact ⟨(event.mapKey, event), Std.ExtTreeMap.mem_toList_iff_getElem?_eq_some.mpr found, rfl⟩

theorem mem_toList_iff (orderly : pending.Orderly) :
    event ∈ pending.toList ↔
      event ∈ pending.displaced ∨ pending.get? event.mapKey = some event := by
  rw [toList, List.mem_append, List.mem_mergeSort, mem_values_iff orderly.isPlaced]

theorem mem_toList_iff_of_live (orderly : pending.Orderly) (live : event.kind ≠ .delete) :
    event ∈ pending.toList ↔ pending.live? event.newKey = some event := by
  have mapKey := NetEvent.mapKey_of_ne_delete live
  have placed : event ∉ pending.displaced := fun displaced =>
    live (orderly.displaced_delete displaced)
  rw [mem_toList_iff orderly, live?_eq_some_iff, mapKey]
  simp [placed, live]

theorem mem_toList_of_live? (orderly : pending.Orderly) (found : pending.live? key = some event) :
    event ∈ pending.toList ∧ event.newKey = key := by
  rcases live?_eq_some_iff.mp found with ⟨occupied, live⟩
  have mapKey := NetEvent.mapKey_of_ne_delete live
  refine ⟨?_, ?_⟩
  · rw [mem_toList_iff orderly, orderly.placed occupied]
    exact Or.inr occupied
  · rw [← mapKey, orderly.placed occupied]

theorem mem_deletes_iff (orderly : pending.Orderly) :
    key ∈ pending.deletes ↔
      ∃ event ∈ pending.toList, event.kind = .delete ∧ event.oldKey = key := by
  constructor
  · rintro (⟨event, found, isDelete⟩ | ⟨event, displaced, rfl⟩)
    · refine ⟨event, ?_, isDelete, orderly.oldKey_eq found isDelete⟩
      rw [mem_toList_iff orderly, orderly.placed found]
      exact Or.inr found
    · exact ⟨event, (mem_toList_iff orderly).mpr (Or.inl displaced),
        orderly.displaced_delete displaced, rfl⟩
  · rintro ⟨event, listed, isDelete, rfl⟩
    rcases (mem_toList_iff orderly).mp listed with displaced | found
    · exact Or.inr ⟨event, displaced, rfl⟩
    · rw [NetEvent.mapKey_of_delete isDelete] at found
      exact Or.inl ⟨event, found, isDelete⟩

variable {forgotten : Set String} {base table : Table}

theorem mem_removed_of_mem_toList (orderly : pending.Orderly) (listed : event ∈ pending.toList)
    (isDelete : event.kind = .delete) : event.oldKey ∈ (pending.difference forgotten).removed :=
  Or.inl ((mem_deletes_iff orderly).mpr ⟨event, listed, isDelete, rfl⟩)

/-- A drained update is there for a row of the old table. -/
theorem origin_of_mem_toList (tracks : pending.Tracks forgotten base table)
    (listed : event ∈ pending.toList) (isUpdate : event.kind = .update) :
    event.newKey ∈ table ∧
      (pending.difference forgotten).origin event.newKey = some event.oldKey := by
  have found := (mem_toList_iff_of_live tracks.orderly (by simp [isUpdate])).mp listed
  refine ⟨?_, Difference.origin_of_update found isUpdate⟩
  exact (Std.ExtTreeMap.getElem?_eq_some_iff.mp (tracks.between.live_row found)).1

/-- What an earlier one of the drained events has to do with a later one. -/
structure ComesBefore (first second : NetEvent) : Prop where
  deletes_ne : first.kind = .delete → second.kind = .delete → first.oldKey ≠ second.oldKey
  lives_ne : first.kind ≠ .delete → second.kind ≠ .delete → first.newKey ≠ second.newKey
  rank_le : rank first.kind ≤ rank second.kind
  updates_le : first.kind = .update → second.kind = .update → first.newKey ≤ second.newKey

theorem drainsBefore_iff {first second : NetEvent} :
    drainsBefore first second = true ↔
      rank first.kind < rank second.kind ∨
        rank first.kind = rank second.kind ∧ first.mapKey ≤ second.mapKey := by
  simp [drainsBefore]

theorem pairwise_mergeSort_drainsBefore (events : List NetEvent) :
    (events.mergeSort drainsBefore).Pairwise fun first second =>
      drainsBefore first second = true := by
  apply List.pairwise_mergeSort
  · intro first second third firstLe secondLe
    rw [drainsBefore_iff] at firstLe secondLe ⊢
    rcases firstLe with firstLt | ⟨firstEq, firstLe⟩
    · left
      omega
    · rcases secondLe with secondLt | ⟨secondEq, secondLe⟩
      · left
        omega
      · right
        exact ⟨firstEq.trans secondEq, String.le_trans firstLe secondLe⟩
  · intro first second
    rw [Bool.or_eq_true, drainsBefore_iff, drainsBefore_iff]
    rcases Nat.lt_trichotomy (rank first.kind) (rank second.kind) with less | same | greater
    · exact Or.inl (Or.inl less)
    · rcases String.le_total first.mapKey second.mapKey with le | ge
      · exact Or.inl (Or.inr ⟨same, le⟩)
      · exact Or.inr (Or.inr ⟨same.symm, ge⟩)
    · exact Or.inr (Or.inl greater)

/-- Whether one event is drained before another, whatever else is pending. -/
def DrainsFirst (first second : NetEvent) : Prop :=
  rank first.kind < rank second.kind ∨
    rank first.kind = rank second.kind ∧ first.mapKey < second.mapKey

theorem DrainsFirst.asymm {first second : NetEvent} (before : DrainsFirst first second) :
    ¬DrainsFirst second first := by
  rintro (rankLt | ⟨sameRank, keyLt⟩)
  · rcases before with lt | ⟨same, _⟩ <;> omega
  · rcases before with lt | ⟨_, lt⟩
    · omega
    · exact String.lt_asymm lt keyLt

theorem pairwise_drainsFirst {events : List NetEvent}
    (keysNe : events.Pairwise fun first second => first.mapKey ≠ second.mapKey) :
    (events.mergeSort drainsBefore).Pairwise DrainsFirst := by
  have sortedNe := ((List.mergeSort_perm events drainsBefore).pairwise_iff
    fun differ => Ne.symm differ).mpr keysNe
  apply ((pairwise_mergeSort_drainsBefore events).and sortedNe).imp
  rintro first second ⟨sorted, keyNe⟩
  rw [drainsBefore_iff] at sorted
  exact sorted.imp id fun same => ⟨same.1, Std.lt_of_le_of_ne same.2 keyNe⟩

/-- Events that can be listed in a strict order can be listed so in one way only. -/
theorem eq_of_perm_of_drainsFirst {events others : List NetEvent} (perm : events.Perm others)
    (sorted : events.Pairwise DrainsFirst) (otherSorted : others.Pairwise DrainsFirst) :
    events = others :=
  perm.eq_of_pairwise (fun _ _ _ _ before after => absurd after before.asymm) sorted otherSorted

theorem pairwise_values_mapKey_ne (isPlaced : pending.IsPlaced) :
    pending.entries.values.Pairwise fun first second => first.mapKey ≠ second.mapKey := by
  rw [values_eq_map_toList, List.pairwise_map]
  apply Std.ExtTreeMap.distinct_keys_toList.imp_of_mem
  rintro ⟨firstPlace, first⟩ ⟨secondPlace, second⟩ firstMem secondMem placesNe
  have firstKey := isPlaced (Std.ExtTreeMap.mem_toList_iff_getElem?_eq_some.mp firstMem)
  have secondKey := isPlaced (Std.ExtTreeMap.mem_toList_iff_getElem?_eq_some.mp secondMem)
  simpa [firstKey, secondKey] using placesNe

theorem pairwise_comesBefore_of_entries (orderly : pending.Orderly) :
    (pending.entries.values.mergeSort drainsBefore).Pairwise ComesBefore := by
  have keysNe :=
    ((List.mergeSort_perm pending.entries.values drainsBefore).pairwise_iff
      fun differ => Ne.symm differ).mpr (pairwise_values_mapKey_ne orderly.isPlaced)
  apply ((pairwise_mergeSort_drainsBefore pending.entries.values).and keysNe).imp
  rintro first second ⟨sorted, keyNe⟩
  rw [drainsBefore_iff] at sorted
  constructor
  · intro firstDelete secondDelete
    rwa [NetEvent.mapKey_of_delete firstDelete, NetEvent.mapKey_of_delete secondDelete] at keyNe
  · intro firstLive secondLive
    rwa [NetEvent.mapKey_of_ne_delete firstLive, NetEvent.mapKey_of_ne_delete secondLive] at keyNe
  · omega
  · intro firstUpdate secondUpdate
    rcases sorted with less | ⟨_, le⟩
    · rw [firstUpdate, secondUpdate] at less
      exact absurd less (Nat.lt_irrefl _)
    · rwa [NetEvent.mapKey_of_ne_delete (by simp [firstUpdate]),
        NetEvent.mapKey_of_ne_delete (by simp [secondUpdate])] at le

/-- Each two of the drained events are in order. -/
theorem pairwise_toList (orderly : pending.Orderly) : pending.toList.Pairwise ComesBefore := by
  have displacedRank : ∀ first ∈ pending.displaced, rank first.kind = 0 := by
    intro first displaced
    rw [orderly.displaced_delete displaced, rank]
  rw [toList, List.pairwise_append]
  refine ⟨?_, pairwise_comesBefore_of_entries orderly, ?_⟩
  · apply (List.pairwise_map.mp orderly.displaced_nodup).imp_of_mem
    intro first second firstMem secondMem keyNe
    have firstDelete := orderly.displaced_delete firstMem
    have secondDelete := orderly.displaced_delete secondMem
    exact ⟨fun _ _ => keyNe, by simp [firstDelete], by simp [firstDelete, secondDelete],
      by simp [firstDelete]⟩
  · intro first firstMem second secondMem
    rw [List.mem_mergeSort, mem_values_iff orderly.isPlaced] at secondMem
    have firstDelete := orderly.displaced_delete firstMem
    refine ⟨?_, by simp [firstDelete], ?_, by simp [firstDelete]⟩
    · intro _ secondDelete same
      rw [NetEvent.mapKey_of_delete secondDelete, ← same] at secondMem
      exact orderly.displaced_apart firstMem secondMem secondDelete
    · simp [displacedRank first firstMem]

end Pending

end RowLog
