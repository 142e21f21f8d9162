import Mathlib.Algebra.Order.Ring.Nat
import Mathlib.Data.List.Chain
import RowLog.Proofs.PartitionFiles

/-!
# The sizes of passes

The row batches of a pass take no more bytes than the budget allows, unless there is only one of
them. No pass ends early: the row batch that starts another pass would have exceeded the budget in
the one before. Schema changes count for nothing and start no pass but the first. What carries this
from record to record is `Passes.IsSplit`, which also says that the bytes of the last pass are
counted as they are; an empty count then means that there is no row batch yet, as each takes some.
-/

namespace RowLog

theorem length_encodeChars_objectChars_pos (members : List (String × List Char)) :
    0 < (Utf8.encodeChars (Json.objectChars members)).length := by
  rw [Json.objectChars, List.cons_append, Utf8.encodeChars_cons, List.length_append,
    String.length_utf8EncodeChar]
  exact Nat.add_pos_left (Char.utf8Size_pos _) _

theorem Record.size_pos (record : Record) : 0 < record.size := by
  cases record with
  | schemaChange => exact length_encodeChars_objectChars_pos _
  | rowBatch => exact length_encodeChars_objectChars_pos _

def rowBatches (records : List Record) : List Record :=
  records.filter fun record => !record.isChange

/-- How many bytes the payloads of the row batches among some records take. -/
def batchBytes (records : List Record) : Nat :=
  ((rowBatches records).map Record.size).sum

section Batches

variable (records : List Record)

@[simp]
theorem rowBatches_append_schemaChange (change : SchemaChange) :
    rowBatches (records ++ [.schemaChange change]) = rowBatches records := by
  simp [rowBatches, Record.isChange]

@[simp]
theorem rowBatches_append_rowBatch (batch : RowBatch) :
    rowBatches (records ++ [.rowBatch batch]) = rowBatches records ++ [.rowBatch batch] := by
  simp [rowBatches, Record.isChange]

@[simp]
theorem batchBytes_append_schemaChange (change : SchemaChange) :
    batchBytes (records ++ [.schemaChange change]) = batchBytes records := by
  simp [batchBytes]

@[simp]
theorem batchBytes_append_rowBatch (batch : RowBatch) :
    batchBytes (records ++ [.rowBatch batch]) =
      batchBytes records + (Record.rowBatch batch).size := by
  simp [batchBytes]

theorem batchBytes_singleton (batch : RowBatch) :
    batchBytes [.rowBatch batch] = (Record.rowBatch batch).size :=
  (batchBytes_append_rowBatch [] batch).trans (Nat.zero_add _)

theorem rowBatches_eq_nil_of_batchBytes {records : List Record} (none : batchBytes records = 0) :
    rowBatches records = [] := by
  rw [batchBytes] at none
  cases batches : rowBatches records with
  | nil => rfl
  | cons batch rest =>
      rw [batches, List.map_cons, List.sum_cons, Nat.add_eq_zero_iff] at none
      exact absurd none.1 batch.size_pos.ne'

end Batches

/-- Whether the row batches of a pass keep to a budget, which a single one need not. -/
def KeepsTo (budget : Nat) (pass : List Record) : Prop :=
  batchBytes pass ≤ budget ∨ (rowBatches pass).length = 1

/-- Whether a pass starts with a row batch that the pass before had no room for. -/
def StartsAfter (budget : Nat) (previous next : List Record) : Prop :=
  ∃ batch rest, next = .rowBatch batch :: rest ∧
    budget < batchBytes previous + (Record.rowBatch batch).size

theorem StartsAfter.append {budget : Nat} {previous next : List Record}
    (starts : StartsAfter budget previous next) (records : List Record) :
    StartsAfter budget previous (next ++ records) := by
  rcases starts with ⟨batch, rest, rfl, exceeds⟩
  exact ⟨batch, rest ++ records, rfl, exceeds⟩

namespace Passes

variable {budget : Nat} {passes : Passes}

/-- Whether records are split into passes as the budget says. -/
structure IsSplit (budget : Nat) (passes : Passes) : Prop where
  counted : passes.currentSize = batchBytes passes.current
  keeps : ∀ pass ∈ passes.toList, KeepsTo budget pass
  starts : passes.toList.IsChain (StartsAfter budget)

theorem isSplit_empty (budget : Nat) : empty.IsSplit budget where
  counted := rfl
  keeps := by
    intro pass passMem
    rw [List.mem_singleton.mp passMem]
    exact .inl (Nat.zero_le budget)
  starts := List.isChain_singleton []

/-- A record that goes to the last pass starts none. -/
theorem IsSplit.starts_concat (split : passes.IsSplit budget) (record : Record) :
    (passes.finished ++ [passes.current ++ [record]]).IsChain (StartsAfter budget) := by
  have before := List.isChain_append.mp split.starts
  apply before.1.append (List.isChain_singleton _)
  intro previous previousMem next nextMem
  cases nextMem
  exact (before.2.2 previous previousMem passes.current rfl).append [record]

theorem IsSplit.keeps_concat (split : passes.IsSplit budget) {current : List Record}
    (keeps : KeepsTo budget current) :
    ∀ pass ∈ passes.finished ++ [current], KeepsTo budget pass := by
  intro pass passMem
  rcases List.mem_append.mp passMem with finished | last
  · exact split.keeps pass (List.mem_append_left [passes.current] finished)
  · rwa [List.mem_singleton.mp last]

theorem IsSplit.append_schemaChange (split : passes.IsSplit budget) (change : SchemaChange) :
    (passes.append budget (.schemaChange change)).IsSplit budget where
  counted := split.counted.trans (batchBytes_append_schemaChange passes.current change).symm
  keeps := by
    have last : passes.current ∈ passes.toList :=
      List.mem_append_right passes.finished (List.mem_singleton_self passes.current)
    have keeps := split.keeps passes.current last
    have keepsChange : KeepsTo budget (passes.current ++ [.schemaChange change]) := by
      rwa [KeepsTo, batchBytes_append_schemaChange, rowBatches_append_schemaChange]
    exact split.keeps_concat keepsChange
  starts := split.starts_concat (.schemaChange change)

/-- A row batch that goes to the last pass fits into it, or is its first. -/
theorem IsSplit.keepsTo_concat (split : passes.IsSplit budget) {batch : RowBatch}
    (room : ¬passes.isFullFor budget (Record.rowBatch batch).size = true) :
    KeepsTo budget (passes.current ++ [.rowBatch batch]) := by
  simp only [isFullFor, split.counted, Bool.and_eq_true, decide_eq_true_eq, not_and,
    Nat.not_lt] at room
  rcases Nat.eq_zero_or_pos (batchBytes passes.current) with none | some
  · have first := rowBatches_eq_nil_of_batchBytes none
    right
    rw [rowBatches_append_rowBatch, first, List.nil_append, List.length_singleton]
  · left
    rw [batchBytes_append_rowBatch]
    exact room some

theorem IsSplit.append_rowBatch (split : passes.IsSplit budget) (batch : RowBatch) :
    (passes.append budget (.rowBatch batch)).IsSplit budget := by
  rw [append]
  split
  next full =>
    simp only [isFullFor, split.counted, Bool.and_eq_true, decide_eq_true_eq] at full
    constructor
    case counted => exact (batchBytes_singleton batch).symm
    case keeps =>
      intro pass passMem
      rcases List.mem_append.mp passMem with before | last
      · exact split.keeps pass before
      · rw [List.mem_singleton.mp last]
        exact .inr rfl
    case starts =>
      apply split.starts.append (List.isChain_singleton _)
      intro previous previousMem next nextMem
      cases nextMem
      rw [toList, List.getLast?_concat] at previousMem
      cases previousMem
      exact ⟨batch, [], rfl, full.2⟩
  next room =>
    constructor
    case counted =>
      rw [batchBytes_append_rowBatch, split.counted]
    case keeps => exact split.keeps_concat (split.keepsTo_concat room)
    case starts => exact split.starts_concat (.rowBatch batch)

theorem IsSplit.append (split : passes.IsSplit budget) (record : Record) :
    (passes.append budget record).IsSplit budget := by
  cases record with
  | schemaChange change => exact split.append_schemaChange change
  | rowBatch batch => exact split.append_rowBatch batch

end Passes

namespace Partition

variable {budget : Nat} {partition : Partition}

theorem isSplit_appendAll (split : ∀ stream, (partition.passesOf stream).IsSplit budget)
    (entries : List (StreamId × Record)) (stream : StreamId) :
    ((partition.appendAll budget entries).passesOf stream).IsSplit budget := by
  induction entries generalizing partition with
  | nil => exact split stream
  | cons entry rest ih =>
      apply ih
      intro other
      rw [passesOf_append]
      by_cases same : entry.1 = other
      · rw [if_pos same]
        exact (split entry.1).append entry.2
      · rw [if_neg same]
        exact split other

/-- The passes of a stream hold what is added to it, in order. Each keeps to the budget, and each but
the first starts with a row batch that the one before had no room for. Unless two streams share
their files, the files of the stream hold its passes. -/
theorem passesOf_appendAll_empty (budget : Nat) (entries : List (StreamId × Record))
    (stream : StreamId) :
    let partition := empty.appendAll budget entries
    let passes := (partition.passesOf stream).toList
    passes.flatten = Scope.entriesOf stream entries ∧
      (∀ pass ∈ passes, KeepsTo budget pass) ∧
      passes.IsChain (StartsAfter budget) ∧
      (Scope.entriesOf stream entries ≠ [] →
        (StreamId.HaveOwnFiles fun other => Scope.entriesOf other entries ≠ []) →
          partition.passBytes stream = passes.map logBytes) := by
  intro partition passes
  have split : (partition.passesOf stream).IsSplit budget := by
    apply isSplit_appendAll
    intro other
    rw [passesOf_empty]
    exact Passes.isSplit_empty budget
  have records : passes.flatten = Scope.entriesOf stream entries := by
    have appended := records_appendAll budget entries empty stream
    rwa [passesOf_empty, Passes.records_empty, List.nil_append] at appended
  refine ⟨records, split.keeps, split.starts, ?_⟩
  intro present own
  apply passBytes_appendAll_empty own
  exact (mem_streams_appendAll entries empty stream).mpr (.inr present)

/-- A batch that takes the whole budget leaves room for schema changes, but for no other batch. -/
theorem passesOf_appendAll_of_exact_fit :
    let stream : StreamId := ⟨"s", some "t"⟩
    let change : Record := .schemaChange ⟨1, "truncate s.t"⟩
    let batch : Record := .rowBatch ⟨2, []⟩
    let entries := [(stream, change), (stream, batch), (⟨"s", none⟩, change), (stream, change),
      (stream, batch)]
    let partition := empty.appendAll batch.size entries
    let passes := (partition.passesOf stream).toList
    passes = [[change, batch, change], [batch]] ∧
      passes.flatten = Scope.entriesOf stream entries ∧
      (∀ pass ∈ passes, KeepsTo batch.size pass) ∧
      passes.IsChain (StartsAfter batch.size) ∧
      Scope.entriesOf stream entries ≠ [] ∧
      (StreamId.HaveOwnFiles fun other => Scope.entriesOf other entries ≠ []) ∧
      partition.passBytes stream = passes.map logBytes := by
  intro stream change batch entries partition passes
  have present : Scope.entriesOf stream entries ≠ [] := by decide
  have own : StreamId.HaveOwnFiles fun other => Scope.entriesOf other entries ≠ [] := by
    intro both
    exact both.1 (by decide)
  rcases passesOf_appendAll_empty batch.size entries stream with ⟨records, keeps, starts, files⟩
  exact ⟨by decide +kernel, records, keeps, starts, present, own, files present own⟩

end Partition

end RowLog
