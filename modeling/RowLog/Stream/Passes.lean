import RowLog.Log.RecordCodec

/-!
# Passes

The records of a stream are split into passes, so that no more of them than a budget allows has to
be held at a time. Only row batches count against the budget, by the bytes of their payloads, and
only a row batch starts another pass.
-/

namespace RowLog

def Record.size (record : Record) : Nat :=
  record.encode.length

/-- The records of a stream in passes. -/
structure Passes where
  finished : List (List Record)
  /-- The records of the last pass. -/
  current : List Record
  /-- The bytes of the row batches of the last pass. -/
  currentSize : Nat

namespace Passes

def empty : Passes := ⟨[], [], 0⟩

/-- Whether another row batch of a given size would exceed the budget. A pass without row batches
takes a batch of any size. -/
def isFullFor (budget : Nat) (passes : Passes) (size : Nat) : Bool :=
  0 < passes.currentSize && budget < passes.currentSize + size

/-- Adds a record to the last pass, or to another one if the last one is full. -/
def append (budget : Nat) (passes : Passes) (record : Record) : Passes :=
  match record with
  | .schemaChange _ => { passes with current := passes.current ++ [record] }
  | .rowBatch _ =>
      if passes.isFullFor budget record.size then
        ⟨passes.finished ++ [passes.current], [record], record.size⟩
      else
        ⟨passes.finished, passes.current ++ [record], passes.currentSize + record.size⟩

def toList (passes : Passes) : List (List Record) :=
  passes.finished ++ [passes.current]

def records (passes : Passes) : List Record :=
  passes.toList.flatten

@[simp]
theorem records_empty : empty.records = [] := rfl

@[simp]
theorem records_append (budget : Nat) (passes : Passes) (record : Record) :
    (passes.append budget record).records = passes.records ++ [record] := by
  cases record with
  | schemaChange => simp [append, records, toList]
  | rowBatch =>
      simp only [append]
      split <;> simp [records, toList]

end Passes

end RowLog
