import RowLog.Log.Record

/-!
# Windows

A `Window` is the span of commit times that a compaction covers. Main statement: a time lies in the
window exactly if it is not before the start and not after the end.
-/

namespace RowLog

/-- A span of commit times. -/
structure Window where
  /-- The first time. -/
  start : Timestamp
  /-- The last time; zero stands for a window without end. -/
  stop : Timestamp
  deriving DecidableEq

namespace Window

def endsBefore (window : Window) (stamp : Timestamp) : Bool :=
  window.stop != 0 && window.stop < stamp

def contains (window : Window) (stamp : Timestamp) : Bool :=
  window.start ≤ stamp && !window.endsBefore stamp

theorem endsBefore_iff {window : Window} {stamp : Timestamp} :
    window.endsBefore stamp = true ↔ window.stop ≠ 0 ∧ window.stop < stamp := by
  simp [endsBefore]

theorem contains_iff {window : Window} {stamp : Timestamp} :
    window.contains stamp = true ↔
      window.start ≤ stamp ∧ (window.stop = 0 ∨ stamp ≤ window.stop) := by
  simp only [contains, endsBefore, Bool.and_eq_true, decide_eq_true_eq, Bool.not_eq_true',
    Bool.and_eq_false_iff, bne_eq_false_iff_eq, decide_eq_false_iff_not, Int64.not_lt]

end Window

end RowLog
