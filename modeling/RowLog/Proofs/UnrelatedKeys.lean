import RowLog.Proofs.DrainedEntries

/-!
# Rows with unrelated keys

Two lists of events that have no key in common do not influence each other, in whatever order they
are merged into one: every event gets the answer that it gets when its list is taken in alone, and
the events drained with the keys of one list are those drained after this list alone. Nothing is
asked of the events, so some of them may not be able to follow what is pending or run into a
conflict.

What is pending after the merged list is at every moment what is pending after the two parts of it,
`Pending.Joins`. The two sides of this relation are alike, so it is enough to follow an event of the
first list.
-/

namespace RowLog

/-- Whether a list is made of two others, each of which keeps its order. -/
inductive IsShuffle {α : Type} : List α → List α → List α → Prop
  | nil : IsShuffle [] [] []
  | left (item : α) {first second all : List α} (rest : IsShuffle first second all) :
      IsShuffle (item :: first) second (item :: all)
  | right (item : α) {first second all : List α} (rest : IsShuffle first second all) :
      IsShuffle first (item :: second) (item :: all)

namespace IsShuffle

variable {α : Type} {first second all : List α}

theorem symm (shuffle : IsShuffle first second all) : IsShuffle second first all := by
  induction shuffle with
  | nil => exact .nil
  | left item _ ih => exact .right item ih
  | right item _ ih => exact .left item ih

theorem left_append (shuffle : IsShuffle first second all) (item : α) :
    IsShuffle (first ++ [item]) second (all ++ [item]) := by
  induction shuffle with
  | nil => exact .left item .nil
  | left other _ ih => exact .left other ih
  | right other _ ih => exact .right other ih

theorem mem_iff (shuffle : IsShuffle first second all) {item : α} :
    item ∈ all ↔ item ∈ first ∨ item ∈ second := by
  induction shuffle with
  | nil => simp
  | left other _ ih => simp [ih, or_assoc]
  | right other _ ih => simp [ih, or_left_comm]

/-- The items of a list that tell it from the other one are found again in their order. -/
theorem filter_eq_left (shuffle : IsShuffle first second all) {isFirst : α → Bool}
    (ofFirst : ∀ item ∈ first, isFirst item = true)
    (ofSecond : ∀ item ∈ second, isFirst item = false) : all.filter isFirst = first := by
  induction shuffle with
  | nil => rfl
  | left item _ ih =>
      rw [List.forall_mem_cons] at ofFirst
      rw [List.filter_cons_of_pos ofFirst.1, ih ofFirst.2 ofSecond]
  | right item _ ih =>
      rw [List.forall_mem_cons] at ofSecond
      rw [List.filter_cons_of_neg (by simp [ofSecond.1]), ih ofFirst ofSecond.2]

end IsShuffle

namespace NetEvent

/-- The keys of the row of an event, before and after it. -/
def keys (event : NetEvent) : List String := [event.oldKey, event.newKey]

/-- The keys of the rows of some events. -/
def keysOf (events : List NetEvent) : List String := events.flatMap keys

/-- Whether the keys of the row of an event are among some keys. -/
def IsWithin (keys : List String) (event : NetEvent) : Prop :=
  event.oldKey ∈ keys ∧ event.newKey ∈ keys

instance (keys : List String) (event : NetEvent) : Decidable (event.IsWithin keys) :=
  inferInstanceAs (Decidable (_ ∧ _))

variable {event earlier : NetEvent} {keys others : List String}

theorem isWithin_keysOf {events : List NetEvent} (eventMem : event ∈ events) :
    event.IsWithin (keysOf events) := by
  constructor
  · exact List.mem_flatMap.mpr ⟨event, eventMem, by simp [NetEvent.keys]⟩
  · exact List.mem_flatMap.mpr ⟨event, eventMem, by simp [NetEvent.keys]⟩

theorem IsWithin.mapKey_mem (within : event.IsWithin keys) : event.mapKey ∈ keys := by
  cases kind : event.kind with
  | insert => simpa [mapKey, kind] using within.2
  | update => simpa [mapKey, kind] using within.2
  | delete => simpa [mapKey, kind] using within.1

theorem IsWithin.not_of_disjoint (within : event.IsWithin others) (apart : keys.Disjoint others) :
    ¬event.IsWithin keys :=
  fun alsoWithin => apart alsoWithin.1 within.1

/-- The keys of merged events are keys of the two. -/
theorem IsWithin.merge (earlierWithin : earlier.IsWithin keys) (within : event.IsWithin keys) :
    (earlier.merge event).1.IsWithin keys := by
  rcases earlierWithin with ⟨earlierOld, earlierNew⟩
  rcases within with ⟨oldKey, newKey⟩
  cases earlierKind : earlier.kind with
  | insert =>
      cases kind : event.kind <;>
        simp [NetEvent.merge, IsWithin, earlierKind, kind, earlierOld, earlierNew, newKey]
  | update =>
      cases kind : event.kind with
      | insert => simp [NetEvent.merge, IsWithin, earlierKind, kind, earlierOld, earlierNew]
      | update => simp [NetEvent.merge, IsWithin, earlierKind, kind, earlierOld, newKey]
      | delete =>
          by_cases unmoved : earlier.oldKey = earlier.newKey
          · simp [NetEvent.merge, IsWithin, earlierKind, kind, unmoved, oldKey, newKey]
          · simp [NetEvent.merge, IsWithin, earlierKind, kind, unmoved, deleteMoved, earlierOld]
  | delete =>
      cases kind : event.kind <;>
        simp [NetEvent.merge, IsWithin, earlierKind, kind, earlierOld, earlierNew, oldKey, newKey]

end NetEvent

namespace Pending

open NetEvent (keysOf)

variable {first second whole : Pending} {event : NetEvent} {keys others : List String}

/-- Whether pending events have to do with some keys only. -/
structure IsWithin (keys : List String) (pending : Pending) : Prop where
  stored : ∀ {key event}, pending.get? key = some event → key ∈ keys ∧ event.IsWithin keys
  displaced : ∀ event ∈ pending.displaced, event.IsWithin keys

/-- Whether what is pending are the events of two parts, of which each has to do with keys of its
own only. -/
structure Joins (keys others : List String) (first second whole : Pending) : Prop where
  apart : keys.Disjoint others
  first_within : first.IsWithin keys
  second_within : second.IsWithin others
  get?_eq : ∀ key, whole.get? key = (first.get? key).or (second.get? key)
  displaced : IsShuffle first.displaced second.displaced whole.displaced

theorem IsWithin.get?_eq_none (within : first.IsWithin keys) {key : String} (outside : key ∉ keys) :
    first.get? key = none := by
  cases found : first.get? key with
  | none => rfl
  | some event => exact absurd (within.stored found).1 outside

theorem isWithin_empty (keys : List String) : empty.IsWithin keys where
  stored := by simp
  displaced := by simp [empty]

theorem IsWithin.put (within : first.IsWithin keys) (eventWithin : event.IsWithin keys) :
    (first.put event).IsWithin keys where
  stored := by
    intro key other found
    rw [get?_put] at found
    split at found
    · next here =>
        rw [Option.some.injEq] at found
        subst found
        exact ⟨here ▸ eventWithin.mapKey_mem, eventWithin⟩
    · exact within.stored found
  displaced := within.displaced

theorem IsWithin.erase (within : first.IsWithin keys) (place : String) :
    (first.erase place).IsWithin keys where
  stored := by
    intro key other found
    rw [get?_erase, Option.ite_none_left_eq_some] at found
    exact within.stored found.2
  displaced := within.displaced

theorem IsWithin.displace (within : first.IsWithin keys) (eventWithin : event.IsWithin keys) :
    (first.displace event).IsWithin keys where
  stored := within.stored
  displaced := by
    simpa [or_imp, forall_and] using ⟨within.displaced, eventWithin⟩

theorem IsWithin.countInvalid (within : first.IsWithin keys) (transition : Transition) :
    (first.countInvalid transition).IsWithin keys where
  stored := by
    intro key other found
    rw [get?_countInvalid] at found
    exact within.stored found
  displaced := by
    rw [displaced_countInvalid]
    exact within.displaced

namespace Joins

theorem symm (joins : Joins keys others first second whole) :
    Joins others keys second first whole where
  apart := List.disjoint_comm.mp joins.apart
  first_within := joins.second_within
  second_within := joins.first_within
  get?_eq := by
    intro key
    rw [joins.get?_eq]
    by_cases inside : key ∈ keys
    · simp [joins.second_within.get?_eq_none (joins.apart inside)]
    · simp [joins.first_within.get?_eq_none inside]
  displaced := joins.displaced.symm

theorem get?_of_mem (joins : Joins keys others first second whole) {key : String}
    (inside : key ∈ keys) : whole.get? key = first.get? key := by
  rw [joins.get?_eq, joins.second_within.get?_eq_none (joins.apart inside), Option.or_none]

theorem empty (apart : keys.Disjoint others) : Joins keys others .empty .empty .empty where
  apart := apart
  first_within := isWithin_empty keys
  second_within := isWithin_empty others
  get?_eq := by simp
  displaced := .nil

/-! What is done with an event of the first part is done with the whole. -/

theorem put (joins : Joins keys others first second whole) (within : event.IsWithin keys) :
    Joins keys others (first.put event) second (whole.put event) where
  apart := joins.apart
  first_within := joins.first_within.put within
  second_within := joins.second_within
  get?_eq := by
    intro key
    rw [get?_put, get?_put]
    split
    · rw [Option.some_or]
    · exact joins.get?_eq key
  displaced := joins.displaced

theorem erase (joins : Joins keys others first second whole) {place : String}
    (inside : place ∈ keys) :
    Joins keys others (first.erase place) second (whole.erase place) where
  apart := joins.apart
  first_within := joins.first_within.erase place
  second_within := joins.second_within
  get?_eq := by
    intro key
    rw [get?_erase, get?_erase]
    split
    · next here =>
        rw [← here, joins.second_within.get?_eq_none (joins.apart inside), Option.or_none]
    · exact joins.get?_eq key
  displaced := joins.displaced

theorem displace (joins : Joins keys others first second whole) (within : event.IsWithin keys) :
    Joins keys others (first.displace event) second (whole.displace event) where
  apart := joins.apart
  first_within := joins.first_within.displace within
  second_within := joins.second_within
  get?_eq := joins.get?_eq
  displaced := joins.displaced.left_append event

theorem countInvalid (joins : Joins keys others first second whole) (transition : Transition) :
    Joins keys others (first.countInvalid transition) second (whole.countInvalid transition) where
  apart := joins.apart
  first_within := joins.first_within.countInvalid transition
  second_within := joins.second_within
  get?_eq := by
    intro key
    rw [get?_countInvalid, get?_countInvalid]
    exact joins.get?_eq key
  displaced := by
    rw [displaced_countInvalid, displaced_countInvalid]
    exact joins.displaced

theorem store (joins : Joins keys others first second whole) (within : event.IsWithin keys)
    (transition : Transition) :
    (whole.store event transition).2 = (first.store event transition).2 ∧
      Joins keys others (first.store event transition).1 second
        (whole.store event transition).1 := by
  have samePlace := joins.get?_of_mem within.mapKey_mem
  cases found : first.get? event.mapKey with
  | none =>
      rw [store_of_get?_eq_none found, store_of_get?_eq_none (samePlace.trans found)]
      exact ⟨rfl, joins.put within⟩
  | some occupant =>
      have foundWhole := samePlace.trans found
      have occupantWithin := (joins.first_within.stored found).2
      by_cases occupantDelete : occupant.kind = .delete
      · rw [store_over_delete found occupantDelete, store_over_delete foundWhole occupantDelete]
        exact ⟨rfl, (joins.displace occupantWithin).put within⟩
      · by_cases isDelete : event.kind = .delete
        · rw [store_delete_under_live found occupantDelete isDelete,
            store_delete_under_live foundWhole occupantDelete isDelete]
          exact ⟨rfl, joins.displace within⟩
        · rw [store_of_conflict found occupantDelete isDelete,
            store_of_conflict foundWhole occupantDelete isDelete]
          exact ⟨rfl, joins⟩

/-- An event with keys of the first part is taken in by the whole as by this part alone. -/
theorem apply (joins : Joins keys others first second whole) (within : event.IsWithin keys) :
    (whole.apply event).2 = (first.apply event).2 ∧
      Joins keys others (first.apply event).1 second (whole.apply event).1 := by
  have sameRow := joins.get?_of_mem within.1
  cases found : first.get? event.oldKey with
  | none =>
      rw [apply_of_get?_eq_none found, apply_of_get?_eq_none (sameRow.trans found)]
      exact joins.store within .added
  | some earlier =>
      have earlierWithin := (joins.first_within.stored found).2
      have others := (joins.erase within.1).countInvalid (earlier.merge event).2
      rw [apply_of_get?_eq_some found, apply_of_get?_eq_some (sameRow.trans found)]
      dsimp only
      split
      · exact ⟨rfl, others⟩
      · exact others.store (earlierWithin.merge within) _

end Joins

/-- Events with the answers that they get when they are taken in one after the other, whatever the
answers are. -/
def answered : Pending → List NetEvent → List (NetEvent × Except KeyConflict Transition)
  | _, [] => []
  | pending, event :: rest =>
      (event, (pending.apply event).2) :: (pending.apply event).1.answered rest

theorem fst_mem_of_mem_answered {pending : Pending} {events : List NetEvent}
    {answer : NetEvent × Except KeyConflict Transition}
    (answerMem : answer ∈ pending.answered events) : answer.1 ∈ events := by
  induction events generalizing pending with
  | nil => simp [answered] at answerMem
  | cons event rest ih =>
      rcases List.mem_cons.mp answerMem with rfl | later
      · exact List.mem_cons_self
      · exact List.mem_cons_of_mem event (ih later)

/-- What is pending after events have been taken in. -/
def after (pending : Pending) (events : List NetEvent) : Pending :=
  (pending.run (events.map .take)).2

/-- Events of both parts, merged in any order, are taken in as each part takes in its own. -/
theorem Joins.after {firstEvents secondEvents events : List NetEvent}
    (shuffle : IsShuffle firstEvents secondEvents events)
    (joins : Joins keys others first second whole)
    (ofFirst : ∀ event ∈ firstEvents, event.IsWithin keys)
    (ofSecond : ∀ event ∈ secondEvents, event.IsWithin others) :
    IsShuffle (first.answered firstEvents) (second.answered secondEvents)
        (whole.answered events) ∧
      Joins keys others (first.after firstEvents) (second.after secondEvents)
        (whole.after events) := by
  induction shuffle generalizing first second whole with
  | nil => exact ⟨.nil, joins⟩
  | left event _ ih =>
      rw [List.forall_mem_cons] at ofFirst
      rcases joins.apply ofFirst.1 with ⟨sameAnswer, next⟩
      rcases ih next ofFirst.2 ofSecond with ⟨answers, final⟩
      rw [answered, answered, sameAnswer]
      exact ⟨.left _ answers, final⟩
  | right event _ ih =>
      rw [List.forall_mem_cons] at ofSecond
      rcases joins.symm.apply ofSecond.1 with ⟨sameAnswer, next⟩
      rcases ih next.symm ofFirst ofSecond.2 with ⟨answers, final⟩
      rw [answered, answered, sameAnswer]
      exact ⟨.right _ answers, final⟩

theorem nodup_values {pending : Pending} (isPlaced : pending.IsPlaced) :
    pending.entries.values.Nodup := by
  apply (pairwise_values_mapKey_ne isPlaced).imp
  rintro event _ keysNe rfl
  exact keysNe rfl

namespace Joins

theorem perm_values (joins : Joins keys others first second whole) (firstPlaced : first.IsPlaced)
    (wholePlaced : whole.IsPlaced) :
    (whole.entries.values.filter fun event => event.IsWithin keys).Perm first.entries.values := by
  apply (List.perm_ext_iff_of_nodup ((nodup_values wholePlaced).filter _)
    (nodup_values firstPlaced)).mpr
  intro event
  rw [List.mem_filter, mem_values_iff wholePlaced, mem_values_iff firstPlaced, decide_eq_true_iff]
  constructor
  · rintro ⟨found, within⟩
    rwa [joins.get?_of_mem within.mapKey_mem] at found
  · intro found
    have within := (joins.first_within.stored found).2
    rw [joins.get?_of_mem within.mapKey_mem]
    exact ⟨found, within⟩

/-- The drained events with keys of the first part are those drained of this part. -/
theorem filter_toList (joins : Joins keys others first second whole)
    (firstPlaced : first.IsPlaced) (wholePlaced : whole.IsPlaced) :
    (whole.toList.filter fun event => event.IsWithin keys) = first.toList := by
  have displaced : (whole.displaced.filter fun event => event.IsWithin keys) = first.displaced := by
    apply joins.displaced.filter_eq_left
    · intro event eventMem
      exact decide_eq_true (joins.first_within.displaced event eventMem)
    · intro event eventMem
      have within := joins.second_within.displaced event eventMem
      exact decide_eq_false (within.not_of_disjoint joins.apart)
  have sameEntries : ((whole.entries.values.mergeSort drainsBefore).filter fun event =>
      event.IsWithin keys).Perm (first.entries.values.mergeSort drainsBefore) := by
    apply ((List.mergeSort_perm _ _).filter _).trans
    apply (joins.perm_values firstPlaced wholePlaced).trans
    exact (List.mergeSort_perm _ _).symm
  have entries := eq_of_perm_of_drainsFirst sameEntries
    ((pairwise_drainsFirst (pairwise_values_mapKey_ne wholePlaced)).filter _)
    (pairwise_drainsFirst (pairwise_values_mapKey_ne firstPlaced))
  rw [toList, toList, List.filter_append, displaced, entries]

theorem isWithin_of_mem_toList (joins : Joins keys others first second whole)
    (wholePlaced : whole.IsPlaced) (listed : event ∈ whole.toList) :
    event.IsWithin keys ∨ event.IsWithin others := by
  rw [toList, List.mem_append, List.mem_mergeSort, mem_values_iff wholePlaced] at listed
  rcases listed with displaced | found
  · apply (joins.displaced.mem_iff.mp displaced).imp
    · exact joins.first_within.displaced event
    · exact joins.second_within.displaced event
  · rw [joins.get?_eq, Option.or_eq_some_iff] at found
    rcases found with found | ⟨_, found⟩
    · exact .inl (joins.first_within.stored found).2
    · exact .inr (joins.second_within.stored found).2

end Joins

theorem filter_answered {pending other : Pending} {events otherEvents : List NetEvent}
    {answers : List (NetEvent × Except KeyConflict Transition)}
    (apart : (keysOf events).Disjoint (keysOf otherEvents))
    (shuffle : IsShuffle (pending.answered events) (other.answered otherEvents) answers) :
    (answers.filter fun answer => answer.1.IsWithin (keysOf events)) = pending.answered events := by
  apply shuffle.filter_eq_left
  · intro answer answerMem
    exact decide_eq_true (NetEvent.isWithin_keysOf (fst_mem_of_mem_answered answerMem))
  · intro answer answerMem
    have within := NetEvent.isWithin_keysOf (fst_mem_of_mem_answered answerMem)
    exact decide_eq_false (within.not_of_disjoint apart)

/-- If two lists of events have no key in common, then whatever the events are and in whatever order
the lists are merged, each event gets the answer that it gets in its own list, every drained event
has its keys from one of the lists, and those with keys of one list are drained in the same order
as after this list alone. -/
theorem answered_and_drain_of_isShuffle {firstEvents secondEvents events : List NetEvent}
    (apart : (keysOf firstEvents).Disjoint (keysOf secondEvents))
    (shuffle : IsShuffle firstEvents secondEvents events) :
    let isFirst := NetEvent.IsWithin (keysOf firstEvents)
    let isSecond := NetEvent.IsWithin (keysOf secondEvents)
    let drained := fun events => (empty.after events).drain.1
    ((empty.answered events).filter fun answer => isFirst answer.1) =
        empty.answered firstEvents ∧
      ((empty.answered events).filter fun answer => isSecond answer.1) =
        empty.answered secondEvents ∧
      (∀ event ∈ drained events, isFirst event ∨ isSecond event) ∧
      ((drained events).filter fun event => isFirst event) = drained firstEvents ∧
      ((drained events).filter fun event => isSecond event) = drained secondEvents := by
  intro isFirst isSecond drained
  rcases Joins.after shuffle (.empty apart) (fun _ => NetEvent.isWithin_keysOf)
    (fun _ => NetEvent.isWithin_keysOf) with ⟨answers, joins⟩
  have placed : ∀ events, (empty.after events).IsPlaced := fun events =>
    isPlaced_run (events.map .take) isPlaced_empty
  refine ⟨?_, ?_, ?_, ?_, ?_⟩
  · exact filter_answered apart answers
  · exact filter_answered (List.disjoint_comm.mp apart) answers.symm
  · exact fun event => joins.isWithin_of_mem_toList (placed events)
  · exact joins.filter_toList (placed firstEvents) (placed events)
  · exact joins.symm.filter_toList (placed secondEvents) (placed events)

/-- In one list a row moves to the key of a deleted one, and an insert cannot follow it. In the other
list a row moves to a key that is taken. -/
theorem answered_and_drain_of_conflict :
    let firstEvents : List NetEvent := [.single .delete "1|" "1|" 5, .single .update "3|" "1|" 6,
      .single .insert "1|" "1|" 7]
    let secondEvents : List NetEvent := [.single .insert "2|" "2|" 1, .single .update "4|" "2|" 8]
    let events : List NetEvent := [.single .delete "1|" "1|" 5, .single .insert "2|" "2|" 1,
      .single .update "3|" "1|" 6, .single .update "4|" "2|" 8, .single .insert "1|" "1|" 7]
    (keysOf firstEvents).Disjoint (keysOf secondEvents) ∧
      IsShuffle firstEvents secondEvents events ∧
      (empty.answered events).map Prod.snd = [.ok .added, .ok .added, .ok .added,
        .error ⟨"shop", "orders", "2|"⟩, .ok .invalid] ∧
      ((empty.after events).drain.1.filter fun event => event.IsWithin (keysOf firstEvents)) =
        (empty.after firstEvents).drain.1 := by
  intro firstEvents secondEvents events
  have apart : (keysOf firstEvents).Disjoint (keysOf secondEvents) := by
    simp [firstEvents, secondEvents, keysOf, NetEvent.keys, NetEvent.single]
  have shuffle : IsShuffle firstEvents secondEvents events :=
    .left _ (.right _ (.left _ (.right _ (.left _ .nil))))
  rcases answered_and_drain_of_isShuffle apart shuffle with ⟨_, _, _, drained, _⟩
  exact ⟨apart, shuffle, rfl, drained⟩

end Pending

end RowLog
