import RowLog.Proofs.NetDifference

/-!
# Replaying drained events one at a time

A list of events can be replayed one at a time if no event writes a key that a later one still has
as its old key. Then the replay does what `Table.exchange` does at once, and touches no row that
it has written.

The drained events are not always such a list. They come in the order of the keys that they write,
so a row that moves to a key must not wait for the row under that key to move on to a later one.
The main statement is that this is all that can go wrong.
-/

namespace RowLog

namespace NetEvent

/-- Whether no event leaves a row behind under the old key of a later update or delete. -/
def ReplaySafe (events : List NetEvent) : Prop :=
  events.Pairwise fun earlier later =>
    earlier.kind ≠ .delete → later.kind ≠ .insert → earlier.newKey ≠ later.oldKey

/-- Whether no event writes, moves or deletes a row that an earlier one has written. -/
def Undisturbed (events : List NetEvent) : Prop :=
  events.Pairwise fun earlier later =>
    earlier.kind ≠ .delete →
      (later.kind ≠ .delete → earlier.newKey ≠ later.newKey) ∧
        (later.kind ≠ .insert → earlier.newKey ≠ later.oldKey)

instance (events : List NetEvent) : Decidable (ReplaySafe events) :=
  inferInstanceAs (Decidable (events.Pairwise _))

theorem Undisturbed.nodup {events : List NetEvent} (undisturbed : Undisturbed events) :
    ((arrivals events).map newKey).Nodup := by
  rw [arrivals, List.Nodup, List.pairwise_map, List.pairwise_filter]
  apply undisturbed.imp
  intro earlier later apart earlierLive laterLive
  exact (apart (by simpa using earlierLive)).1 (by simpa using laterLive)

end NetEvent

open NetEvent (removedKeys arrivals ReplaySafe Undisturbed follow single)

namespace Table

variable {table : Table} {event : NetEvent} {rest events : List NetEvent} {key : String}

theorem getElem?_exchange_cons (apart : ((arrivals (event :: rest)).map NetEvent.newKey).Nodup)
    (vacant : key ∉ (arrivals rest).map NetEvent.newKey) :
    (table.exchange (event :: rest))[key]? =
      if event.kind ≠ .delete ∧ event.newKey = key then some event.postRow
      else if event.kind ≠ .insert ∧ event.oldKey = key ∨ key ∈ removedKeys rest then none
      else table[key]? := by
  split
  · next written =>
      rcases written with ⟨live, rfl⟩
      exact getElem?_exchange_of_mem apart (by simp [arrivals, live])
  · next unwritten =>
      have stillVacant : key ∉ (arrivals (event :: rest)).map NetEvent.newKey := by
        intro occupied
        rw [arrivals, List.filter_cons] at occupied
        split at occupied
        · next live =>
            rcases List.mem_cons.mp occupied with here | later
            · exact unwritten ⟨by simpa using live, here.symm⟩
            · exact vacant later
        · exact vacant occupied
      rw [getElem?_exchange_of_notMem stillVacant]
      refine if_congr ?_ rfl rfl
      simp only [NetEvent.mem_removedKeys_iff, List.mem_cons, exists_eq_or_imp]

/-- As long as no event touches what an earlier one has written, a replay one at a time does what
all of them do at once. -/
theorem replayAll_eq_exchange (undisturbed : Undisturbed events) :
    table.replayAll events = table.exchange events := by
  induction events generalizing table with
  | nil => rfl
  | cons event rest ih =>
      rcases List.pairwise_cons.mp undisturbed with ⟨first, later⟩
      rw [replayAll_cons, ih later]
      apply Std.ExtTreeMap.ext_getElem?
      intro key
      -- A key that a later event writes is settled by that event, and any other by the first one.
      by_cases occupied : key ∈ (arrivals rest).map NetEvent.newKey
      · rcases List.mem_map.mp occupied with ⟨writer, arrives, rfl⟩
        have arrivesToo : writer ∈ arrivals (event :: rest) := by
          rcases NetEvent.mem_arrivals_iff.mp arrives with ⟨writerMem, live⟩
          exact NetEvent.mem_arrivals_iff.mpr ⟨List.mem_cons_of_mem event writerMem, live⟩
        rw [getElem?_exchange_of_mem (NetEvent.Undisturbed.nodup later) arrives,
          getElem?_exchange_of_mem undisturbed.nodup arrivesToo]
      · rw [getElem?_exchange_of_notMem occupied, getElem?_exchange_cons undisturbed.nodup occupied]
        have untouched : event.kind ≠ .delete → event.newKey ∉ removedKeys rest := by
          intro live removed
          rcases NetEvent.mem_removedKeys_iff.mp removed with ⟨other, otherMem, leaves, same⟩
          exact (first other otherMem live).2 leaves same.symm
        cases kind : event.kind with
        | insert =>
            rw [getElem?_replay_insert kind]
            grind
        | update =>
            rw [getElem?_replay_update kind]
            grind
        | delete =>
            rw [getElem?_replay_delete kind]
            grind

end Table

namespace Pending

variable {pending : Pending} {forgotten : Set String} {base : Table} {events : List NetEvent}

theorem undisturbed_toList (orderly : pending.Orderly) (safe : ReplaySafe pending.toList) :
    Undisturbed pending.toList := by
  apply ((pairwise_toList orderly).and safe).imp
  rintro earlier later ⟨before, apart⟩ live
  exact ⟨before.lives_ne live, apart live⟩

theorem ComesBefore.updates {earlier later : NetEvent} (before : ComesBefore earlier later)
    (live : earlier.kind ≠ .delete) (leaves : later.kind ≠ .insert) :
    earlier.kind = .update ∧ later.kind = .update := by
  have rankLe := before.rank_le
  cases earlierKind : earlier.kind <;> cases laterKind : later.kind <;>
    simp_all [rank]

/-- Of two drained updates, one of which writes the old key of the other, the former writes a key
that is no less: otherwise it would be the earlier one. -/
theorem newKey_le_of_replaySafe (orderly : pending.Orderly) (safe : ReplaySafe pending.toList) :
    ∀ mover ∈ pending.toList, ∀ follower ∈ pending.toList,
      mover.kind = .update → follower.kind = .update → mover.newKey = follower.oldKey →
        follower.newKey ≤ mover.newKey := by
  apply List.Pairwise.forall_of_forall_of_flip
  · intro event _ _ _ _
    exact String.le_refl event.newKey
  · apply safe.imp
    intro mover follower apart isMover isFollower meets
    exact absurd meets (apart (by simp [isMover]) (by simp [isFollower]))
  · apply (pairwise_toList orderly).imp
    intro follower mover before isMover isFollower _
    exact before.updates_le isFollower isMover

/-- The drained events are safe to replay unless a row has moved to the key of another one which
itself has moved on to a later key. -/
theorem replaySafe_toList_iff (tracks : pending.Tracks forgotten base (base.replayAll events))
    (history : base.History events)
    (differenceEq : pending.difference forgotten = events.foldl Difference.take Difference.empty) :
    ReplaySafe pending.toList ↔
      ∀ first ∈ base, ∀ second ∈ base, ∀ last,
        follow events first = some second → follow events second = some last → last ≤ second := by
  have follows_iff : ∀ {old key : String}, old ∈ base →
      (follow events old = some key ↔
        key ∈ base.replayAll events ∧ (pending.difference forgotten).origin key = some old) := by
    intro old key oldMem
    rw [Difference.follow_eq_some_iff events history oldMem, differenceEq]
  constructor
  · intro safe first firstMem second secondMem last firstFollows secondFollows
    rw [follows_iff firstMem] at firstFollows
    rw [follows_iff secondMem] at secondFollows
    rcases firstFollows with ⟨secondPresent, firstOrigin⟩
    rcases secondFollows with ⟨lastPresent, secondOrigin⟩
    rcases Difference.origin_eq_some_iff.mp firstOrigin with
      ⟨_, rfl⟩ | ⟨mover, moverLive, isMover, _⟩
    · have same :=
        tracks.between.origin_injective lastPresent secondPresent secondOrigin firstOrigin
      exact same ▸ String.le_refl last
    · rcases Difference.origin_eq_some_iff.mp secondOrigin with
        ⟨_, rfl⟩ | ⟨follower, followerLive, isFollower, meets⟩
      · exact String.le_refl last
      · rcases mem_toList_of_live? tracks.orderly moverLive with ⟨moverMem, rfl⟩
        rcases mem_toList_of_live? tracks.orderly followerLive with ⟨followerMem, rfl⟩
        exact newKey_le_of_replaySafe tracks.orderly safe mover moverMem follower followerMem
          isMover isFollower meets.symm
  · intro ordered
    apply (pairwise_toList tracks.orderly).imp_of_mem
    intro earlier later earlierMem laterMem before live leaves meets
    rcases before.updates live leaves with ⟨earlierUpdate, laterUpdate⟩
    rcases origin_of_mem_toList tracks earlierMem earlierUpdate with
      ⟨earlierPresent, earlierOrigin⟩
    rcases origin_of_mem_toList tracks laterMem laterUpdate with
      ⟨laterPresent, laterOrigin⟩
    have earlierBase := tracks.between.origin_base earlierPresent earlierOrigin
    have laterBase := tracks.between.origin_base laterPresent laterOrigin
    have earlierFollows : follow events earlier.oldKey = some later.oldKey :=
      (follows_iff earlierBase).mpr (meets ▸ ⟨earlierPresent, earlierOrigin⟩)
    have laterFollows : follow events later.oldKey = some later.newKey :=
      (follows_iff laterBase).mpr ⟨laterPresent, laterOrigin⟩
    have laterLe := ordered _ earlierBase _ laterBase _ earlierFollows laterFollows
    rw [← meets] at laterLe
    have earlierLe := before.updates_le earlierUpdate laterUpdate
    exact before.lives_ne live (by simp [laterUpdate]) (String.le_antisymm earlierLe laterLe)

/-- After a history, the drained events are safe to replay one at a time unless a row has moved to
the key of another one which itself has moved on to a later key; and if they are safe, then none
of them disturbs a row that another one has written. -/
theorem replaySafe_drain_iff_of_history (base : Table) (events : List NetEvent)
    (history : base.History events) :
    ∃ pending, empty.applyAll events = .ok pending ∧
      (ReplaySafe pending.drain.1 ↔
        ∀ first ∈ base, ∀ second ∈ base, ∀ last,
          follow events first = some second → follow events second = some last →
            last ≤ second) ∧
      (ReplaySafe pending.drain.1 → Undisturbed pending.drain.1) := by
  rcases applyAll_empty_of_history events history with
    ⟨pending, applied, tracks, differenceEq⟩
  exact ⟨pending, applied, replaySafe_toList_iff tracks history differenceEq,
    undisturbed_toList tracks.orderly⟩

/-- Two rows that each move back by one key, in a safe order. -/
theorem replaySafe_drain_iff_of_shift_back :
    let base : Table := ((∅ : Table).insert "2|" []).insert "3|" []
    let events := [single .update "2|" "1|" 5, single .update "3|" "2|" 6]
    base.History events ∧
      ∃ pending, empty.applyAll events = .ok pending ∧
        (ReplaySafe pending.drain.1 ↔
          ∀ first ∈ base, ∀ second ∈ base, ∀ last,
            follow events first = some second → follow events second = some last →
              last ≤ second) ∧
        (ReplaySafe pending.drain.1 → Undisturbed pending.drain.1) := by
  intro base events
  have history : base.History events := by
    simp [events, base, single, Table.History, NetEvent.Fits, NetEvent.proper_iff, Table.replay]
  exact ⟨history, replaySafe_drain_iff_of_history base events history⟩

/-- Two rows that each move on by one key are drained the wrong way round: in the replay the first
one overwrites the second and then moves on itself, and no row is left under its key. -/
theorem not_replaySafe_drain_of_shift_on :
    let base : Table := ((∅ : Table).insert "1|" []).insert "2|" []
    let events := [single .update "2|" "3|" 6, single .update "1|" "2|" 5]
    base.History events ∧
      ∃ pending, empty.applyAll events = .ok pending ∧ pending.drain.1 = events.reverse ∧
        ¬ReplaySafe pending.drain.1 ∧
        (base.replayAll pending.drain.1)["2|"]? ≠ (base.replayAll events)["2|"]? := by
  intro base events
  have history : base.History events := by
    simp [events, base, single, Table.History, NetEvent.Fits, NetEvent.proper_iff, Table.replay]
  let pending := (empty.put (single .update "2|" "3|" 6)).put (single .update "1|" "2|" 5)
  have applied : empty.applyAll events = .ok pending := by
    simp [events, pending, applyAll, apply, single, store, insert, NetEvent.mapKey]
  have drained : pending.drain.1 = events.reverse := by
    cbv
  refine ⟨history, pending, applied, drained, ?_, ?_⟩
  · rw [drained]
    decide
  · rw [drained]
    simp [events, base, single, Table.replay]

end Pending

end RowLog
