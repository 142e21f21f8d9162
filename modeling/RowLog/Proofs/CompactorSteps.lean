import Mathlib.Data.List.Forall2
import RowLog.Compactor
import RowLog.Proofs.PendingDifference

/-!
# Single steps of a compaction

What each operation of a `Compactor` does to the records that it has written, to what is pending and
to the latest time: `written_flush` for writing what is pending, `addEvents_eq_ok` for taking in row
events. Two facts make what is pending independent of what went before: it is taken out as a whole,
and how many events could not follow the pending one has no influence on what comes next.
-/

namespace RowLog

/-- Whether pieces make up a list, each of 1000 elements but for the last one, which may have less
but is not empty. -/
structure IsCut {α : Type} (events : List α) (pieces : List (List α)) : Prop where
  flatten_eq : pieces.flatten = events
  full : ∀ piece ∈ pieces.dropLast, piece.length = 1000
  bounded : ∀ piece ∈ pieces, 1 ≤ piece.length ∧ piece.length ≤ 1000

theorem isCut_batches {α : Type} (events : List α) : IsCut events (batches events) := by
  induction events using batches.induct with
  | case1 events isEmpty =>
      rw [batches, if_pos isEmpty, List.isEmpty_iff.mp isEmpty]
      exact ⟨rfl, by simp, by simp⟩
  | case2 events notEmpty ih =>
      have positive : 0 < events.length := by
        cases events with
        | nil => simp at notEmpty
        | cons head tail => simp
      have limit : batchLimit = 1000 := rfl
      rw [batches, if_neg notEmpty]
      constructor
      · rw [List.flatten_cons, ih.flatten_eq, List.take_append_drop]
      · intro piece pieceMem
        cases later : batches (events.drop batchLimit) with
        | nil => simp [later] at pieceMem
        | cons next rest =>
            rw [later, List.dropLast_cons_cons, List.mem_cons] at pieceMem
            rcases pieceMem with rfl | laterMem
            · -- Another piece follows, so there are more events than this one can hold.
              have nextLength := (ih.bounded next (by simp [later])).1
              have total := congrArg List.length ih.flatten_eq
              rw [later, List.flatten_cons, List.length_append, List.length_drop] at total
              rw [List.length_take]
              omega
            · exact ih.full piece (later ▸ laterMem)
      · intro piece pieceMem
        rcases List.mem_cons.mp pieceMem with rfl | laterMem
        · rw [List.length_take]
          omega
        · exact ih.bounded piece laterMem

/-- The time before a given one is one less, except that there is none before the least one. -/
theorem Timestamp.before_eq_ofInt (stamp : Timestamp) :
    Timestamp.before stamp = Int64.ofInt (max (stamp.toInt - 1) Int64.minValue.toInt) := by
  unfold Timestamp.before
  split
  · next least =>
      subst least
      rfl
  · next greater =>
      have lower := Int64.minValue_le_toInt stamp
      have differs : stamp.toInt ≠ Int64.minValue.toInt := fun same =>
        greater (Int64.toInt_inj.mp same)
      rw [Int.max_eq_left (by omega), Int64.ofInt_sub, Int64.ofInt_toInt]
      rfl

namespace Pending

/-- The same events with another count of those that could not follow the pending one. -/
def recount (pending : Pending) (count : Nat) : Pending :=
  { pending with invalidCount := count }

variable {pending : Pending} {event : NetEvent}

@[simp]
theorem get?_recount (count : Nat) (key : String) :
    (pending.recount count).get? key = pending.get? key := rfl

theorem store_recount (count : Nat) (transition : Transition) :
    (pending.recount count).store event transition =
      ((pending.store event transition).1.recount count, (pending.store event transition).2) := by
  simp only [store, insert, get?_recount]
  cases found : pending.get? event.mapKey with
  | none => rfl
  | some occupant =>
      by_cases occupantDelete : occupant.kind = .delete
      · simp only [if_pos occupantDelete]
        rfl
      · by_cases isDelete : event.kind = .delete
        · simp only [if_neg occupantDelete, if_pos isDelete]
          rfl
        · simp only [if_neg occupantDelete, if_neg isDelete]

theorem apply_recount (pending : Pending) (event : NetEvent) (count : Nat) :
    ∃ later, (pending.recount count).apply event =
      ((pending.apply event).1.recount later, (pending.apply event).2) := by
  cases found : pending.get? event.oldKey with
  | none =>
      refine ⟨count, ?_⟩
      rw [apply_of_get?_eq_none found, apply_of_get?_eq_none ((get?_recount _ _).trans found),
        store_recount]
  | some earlier =>
      have others : ∃ later,
          ((pending.recount count).erase event.oldKey).countInvalid (earlier.merge event).2 =
            ((pending.erase event.oldKey).countInvalid (earlier.merge event).2).recount later := by
        unfold countInvalid
        split
        · exact ⟨count + 1, rfl⟩
        · exact ⟨count, rfl⟩
      rcases others with ⟨later, others⟩
      refine ⟨later, ?_⟩
      simp only [apply, get?_recount, found, others]
      split
      · rfl
      · rw [store_recount]

theorem applyAll_recount (events : List NetEvent) {count : Nat} {final : Pending}
    (applied : (pending.recount count).applyAll events = .ok final) :
    ∃ fresh later, pending.applyAll events = .ok fresh ∧ final = fresh.recount later := by
  induction events generalizing pending count with
  | nil =>
      rw [applyAll, Except.ok.injEq] at applied
      exact ⟨pending, count, rfl, applied.symm⟩
  | cons event rest ih =>
      rcases apply_recount pending event count with ⟨later, recounted⟩
      rw [applyAll, recounted] at applied
      rw [applyAll]
      cases first : pending.apply event with
      | mk next result =>
          cases result with
          | error conflict => simp [first] at applied
          | ok transition =>
              simp only [first] at applied
              exact ih applied

theorem applyAll_append (first second : List NetEvent) {middle : Pending}
    (applied : pending.applyAll first = .ok middle) :
    pending.applyAll (first ++ second) = middle.applyAll second := by
  induction first generalizing pending with
  | nil =>
      rw [applyAll, Except.ok.injEq] at applied
      rw [applied, List.nil_append]
  | cons event rest ih =>
      rw [List.cons_append, applyAll]
      rw [applyAll] at applied
      split at applied
      · exact ih applied
      · contradiction

theorem fst_drain_empty : empty.drain.1 = [] := by
  cbv

theorem snd_drain_eq (pending : Pending) :
    pending.drain.2 = empty.recount pending.invalidCount := rfl

end Pending

/-- Whether a net event is that of a row event, with the key that its table has at the given time.
-/
def KeyedAs (timeline : Timeline) (stamp : Timestamp) (event : RowEvent) (net : NetEvent) : Prop :=
  ∃ info, timeline.tableInfo ⟨event.schema, event.table⟩ stamp = .ok info ∧
    NetEvent.ofRowEvent event info = .ok net

namespace Compactor

variable {timeline : Timeline} {stamp : Timestamp} {compactor next : Compactor}

/-- The records of pieces that are written as of a given time. -/
def rowRecords (stamp : Timestamp) (pieces : List (List NetEvent)) : List Record :=
  pieces.map fun piece => .rowBatch ⟨stamp, piece.map NetEvent.toRowEvent⟩

theorem foldl_writeBatch (compactor : Compactor) (pieces : List (List NetEvent)) :
    (pieces.foldl (writeBatch stamp) compactor).written =
        compactor.written ++ rowRecords stamp pieces ∧
      (pieces.foldl (writeBatch stamp) compactor).pending = compactor.pending ∧
      (pieces.foldl (writeBatch stamp) compactor).latest = compactor.latest := by
  induction pieces generalizing compactor with
  | nil => simp [rowRecords]
  | cons piece rest ih =>
      rcases ih (writeBatch stamp compactor piece) with ⟨written, pending, latest⟩
      rw [List.foldl_cons, written, pending, latest]
      simp [writeBatch, rowRecords]

theorem written_flush (compactor : Compactor) (stamp : Timestamp) :
    (compactor.flush stamp).written =
      compactor.written ++ rowRecords stamp (batches compactor.pending.drain.1) :=
  (foldl_writeBatch _ _).1

theorem pending_flush (compactor : Compactor) (stamp : Timestamp) :
    (compactor.flush stamp).pending = compactor.pending.drain.2 :=
  (foldl_writeBatch _ _).2.1

theorem latest_flush (compactor : Compactor) (stamp : Timestamp) :
    (compactor.flush stamp).latest = compactor.latest :=
  (foldl_writeBatch _ _).2.2

/-- A row event that is taken in has a net event, which becomes pending, and nothing is written. -/
theorem addEvent_eq_ok {event : RowEvent}
    (success : compactor.addEvent timeline stamp event = (next, .ok ())) :
    ∃ net transition, KeyedAs timeline stamp event net ∧
      compactor.pending.apply net = (next.pending, .ok transition) ∧
      next.written = compactor.written ∧ next.latest = compactor.latest := by
  unfold addEvent at success
  cases infoEq : timeline.tableInfo ⟨event.schema, event.table⟩ stamp with
  | error cause => simp [infoEq] at success
  | ok info =>
      cases netEq : NetEvent.ofRowEvent event info with
      | error cause => simp [infoEq, netEq] at success
      | ok net =>
          cases appliedEq : compactor.pending.apply net with
          | mk pending result =>
              cases result with
              | error conflict => simp [infoEq, netEq, appliedEq] at success
              | ok transition =>
                  simp only [infoEq, netEq, appliedEq, Prod.mk.injEq, and_true] at success
                  subst success
                  exact ⟨net, transition, ⟨info, infoEq, netEq⟩, appliedEq, rfl, rfl⟩

theorem addEvents_eq_ok (events : List RowEvent)
    (success : compactor.addEvents timeline stamp events = (next, .ok ())) :
    ∃ nets, List.Forall₂ (KeyedAs timeline stamp) events nets ∧
      compactor.pending.applyAll nets = .ok next.pending ∧
      next.written = compactor.written ∧ next.latest = compactor.latest := by
  induction events generalizing compactor with
  | nil =>
      simp only [addEvents, Prod.mk.injEq, and_true] at success
      subst success
      exact ⟨[], List.Forall₂.nil, rfl, rfl, rfl⟩
  | cons event rest ih =>
      rw [addEvents] at success
      cases firstEq : compactor.addEvent timeline stamp event with
      | mk middle result =>
          cases result with
          | error cause => simp [firstEq] at success
          | ok done =>
              rw [firstEq] at success
              rcases addEvent_eq_ok firstEq with
                ⟨net, transition, keyed, applied, firstWritten, firstLatest⟩
              rcases ih success with ⟨nets, restKeyed, restApplied, written, latest⟩
              refine ⟨net :: nets, List.Forall₂.cons keyed restKeyed, ?_,
                written.trans firstWritten, latest.trans firstLatest⟩
              rw [Pending.applyAll, applied]
              exact restApplied

end Compactor

end RowLog
