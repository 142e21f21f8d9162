import RowLog.FileTree
import RowLog.Run.Compaction
import RowLog.Run.Workers
import Mathlib.Data.List.Perm.Basic

/-!
# What becomes of all streams

A `Reduction` accounts for some streams if each of them has its outcome or is skipped, in the order
of the streams, and something is skipped only because of a failure. If nothing is skipped, no more
is left open. The first failure is that of the least stream that has failed, and it is what a
compaction answers with. Main statements: `Reduction.AccountsFor.eq_of_skipped_nil` and
`isToldBy_verdict`.
-/

namespace RowLog

/-- Items of different streams are sorted in a strict order. -/
theorem StreamId.pairwise_mergeSort_compare {β : Type} (stream : β → StreamId) {items : List β}
    (distinct : (items.map stream).Nodup) :
    (items.mergeSort fun first second => ((stream first).compare (stream second)).isLE).Pairwise
      fun first second => (stream first).compare (stream second) = .lt := by
  have sorted : (items.mergeSort fun first second =>
      ((stream first).compare (stream second)).isLE).Pairwise
        fun first second => ((stream first).compare (stream second)).isLE = true := by
    apply List.pairwise_mergeSort
    · intro first second third
      exact Std.TransCmp.isLE_trans
    · intro first second
      rw [Bool.or_eq_true, or_iff_not_imp_left]
      intro notLE
      exact Ordering.isLE_of_eq_lt (Std.OrientedCmp.lt_of_not_isLE notLE)
  have perm := List.mergeSort_perm items fun first second =>
    ((stream first).compare (stream second)).isLE
  have differ := (perm.map stream).nodup_iff.mpr distinct
  apply (sorted.and (List.pairwise_map.mp differ)).imp
  rintro first second ⟨isLE, streamNe⟩
  rcases Ordering.isLE_iff_eq_lt_or_eq_eq.mp isLE with less | same
  · exact less
  · exact absurd (Std.LawfulEqCmp.eq_of_compare same) streamNe

section

variable {ε α : Type} {work : StreamId → Except ε α} {failFast : Bool} {streams : List StreamId}

namespace Reduction

variable {reduction : Reduction ε α}

/-- Whether a reduction says of each of some streams what has become of it. -/
structure AccountsFor (work : StreamId → Except ε α) (failFast : Bool) (streams : List StreamId)
    (reduction : Reduction ε α) : Prop where
  each_once : reduction.streams.Perm streams
  outcome_eq : ∀ entry ∈ reduction.outcomes, entry.2 = work entry.1
  outcomes_sorted :
    reduction.outcomes.Pairwise fun first second => first.1.compare second.1 = .lt
  skipped_sorted : reduction.skipped.Pairwise fun first second => first.compare second = .lt
  skipped_cause : reduction.skipped ≠ [] → failFast = true ∧ reduction.hasFailure = true

theorem hasFailure_iff : reduction.hasFailure = true ↔
    ∃ entry ∈ reduction.outcomes, isFailure entry.2 = true := by
  simp [hasFailure]

theorem streams_sort_perm (reduction : Reduction ε α) :
    reduction.sort.streams.Perm reduction.streams :=
  ((List.mergeSort_perm _ _).map Prod.fst).append (List.mergeSort_perm _ _)

/-- What accounts for streams but for the order accounts for them when it is sorted. -/
theorem accountsFor_sort (distinct : streams.Nodup) (each_once : reduction.streams.Perm streams)
    (outcome_eq : ∀ entry ∈ reduction.outcomes, entry.2 = work entry.1)
    (skipped_cause : reduction.skipped ≠ [] → failFast = true ∧ reduction.hasFailure = true) :
    reduction.sort.AccountsFor work failFast streams := by
  have differ := each_once.nodup_iff.mpr distinct
  rw [Reduction.streams, List.nodup_append] at differ
  have sameOutcomes : reduction.sort.outcomes.Perm reduction.outcomes := List.mergeSort_perm _ _
  have sameSkipped : reduction.sort.skipped.Perm reduction.skipped := List.mergeSort_perm _ _
  constructor
  · exact (streams_sort_perm reduction).trans each_once
  · intro entry entryMem
    exact outcome_eq entry (sameOutcomes.mem_iff.mp entryMem)
  · exact StreamId.pairwise_mergeSort_compare Prod.fst differ.1
  · exact StreamId.pairwise_mergeSort_compare id (by simpa using differ.2.1)
  · intro notEmpty
    have failed := skipped_cause fun empty => notEmpty (List.perm_nil.mp (empty ▸ sameSkipped))
    rw [hasFailure_iff] at failed ⊢
    rcases failed with ⟨stops, entry, entryMem, isFailure⟩
    exact ⟨stops, entry, sameOutcomes.mem_iff.mpr entryMem, isFailure⟩

theorem map_fst_sorted (accounts : reduction.AccountsFor work failFast streams) :
    (reduction.outcomes.map Prod.fst).Pairwise fun first second => first.compare second = .lt :=
  List.pairwise_map.mpr accounts.outcomes_sorted

/-- Sorted streams that are not skipped have one account. -/
theorem AccountsFor.eq_of_skipped_nil (accounts : reduction.AccountsFor work failFast streams)
    (sorted : streams.Pairwise fun first second => first.compare second = .lt)
    (nothing : reduction.skipped = []) :
    reduction = ⟨streams.map fun stream => (stream, work stream), []⟩ := by
  rcases reduction with ⟨outcomes, skipped⟩
  subst nothing
  have each : (outcomes.map Prod.fst).Perm streams := by
    simpa [Reduction.streams] using accounts.each_once
  have asymm (first second : StreamId) (before : first.compare second = .lt) :
      second.compare first ≠ .lt :=
    Std.OrientedCmp.not_lt_of_lt before
  have same : outcomes.map Prod.fst = streams :=
    each.eq_of_pairwise (fun _ _ _ _ before after => absurd after (asymm _ _ before))
      (map_fst_sorted accounts) sorted
  have outcomesEq : outcomes.map (fun entry => (entry.1, work entry.1)) = outcomes := by
    conv_rhs => rw [← List.map_id outcomes]
    apply List.map_congr_left
    intro entry entryMem
    rw [← accounts.outcome_eq entry entryMem]
    rfl
  rw [← same, List.map_map]
  exact congrArg (Reduction.mk · []) outcomesEq.symm

end Reduction

theorem reduceFrom_of_keepsGoing (failed : Bool) :
    reduceFrom (m := Id) work false failed streams =
      ⟨streams.map fun stream => (stream, work stream), []⟩ := by
  induction streams generalizing failed with
  | nil => rfl
  | cons stream rest ih => exact congrArg (Reduction.addOutcome stream (work stream)) (ih _)

theorem sublist_reduceFrom (failed : Bool) :
    ((reduceFrom (m := Id) work failFast failed streams).outcomes.map Prod.fst).Sublist streams ∧
      (reduceFrom (m := Id) work failFast failed streams).skipped.Sublist streams := by
  induction streams generalizing failed with
  | nil => exact ⟨.slnil, .slnil⟩
  | cons stream rest ih =>
      rw [reduceFrom]
      split
      · exact ⟨(ih failed).1.cons stream, (ih failed).2.cons_cons stream⟩
      · exact ⟨(ih _).1.cons_cons stream, (ih _).2.cons stream⟩

/-- What is done in the order of the streams is sorted already. -/
theorem sort_reduce (sorted : streams.Pairwise fun first second => first.compare second = .lt) :
    (reduce (m := Id) work failFast streams).sort = reduce (m := Id) work failFast streams := by
  have inOrder : streams.Pairwise fun first second => (first.compare second).isLE = true :=
    sorted.imp Ordering.isLE_of_eq_lt
  have outcomes : (reduce (m := Id) work failFast streams).outcomes.Pairwise
      fun first second => (first.1.compare second.1).isLE = true :=
    List.pairwise_map.mp (inOrder.sublist (sublist_reduceFrom false).1)
  have skipped : (reduce (m := Id) work failFast streams).skipped.Pairwise
      fun first second => (first.compare second).isLE = true :=
    inOrder.sublist (sublist_reduceFrom false).2
  rw [Reduction.sort, List.mergeSort_of_pairwise outcomes, List.mergeSort_of_pairwise skipped]
  rfl

namespace Reduction

variable {reduction : Reduction ε α} {stream : StreamId} {cause : ε}

theorem mem_failures_iff :
    (stream, cause) ∈ reduction.failures ↔ (stream, .error cause) ∈ reduction.outcomes := by
  simp only [failures, List.mem_filterMap, Prod.exists]
  constructor
  · rintro ⟨other, outcome, entryMem, entryEq⟩
    cases outcome with
    | ok result => contradiction
    | error error =>
        simp only [Option.some.injEq, Prod.mk.injEq] at entryEq
        rwa [entryEq.1, entryEq.2] at entryMem
  · intro entryMem
    exact ⟨stream, _, entryMem, rfl⟩

theorem exists_mem_failures {entry : StreamId × Except ε α} (entryMem : entry ∈ reduction.outcomes)
    (failed : isFailure entry.2 = true) : ∃ cause, (entry.1, cause) ∈ reduction.failures := by
  rcases entry with ⟨stream, outcome⟩
  cases outcome with
  | ok result => contradiction
  | error cause => exact ⟨cause, mem_failures_iff.mpr entryMem⟩

theorem pairwise_failures (accounts : reduction.AccountsFor work failFast streams) :
    reduction.failures.Pairwise fun first second => first.1.compare second.1 = .lt := by
  rw [failures, List.pairwise_filterMap]
  apply accounts.outcomes_sorted.imp
  rintro ⟨first, firstOutcome⟩ ⟨second, secondOutcome⟩ before
  cases firstOutcome <;> cases secondOutcome <;> simp [before]

theorem hasFailure_iff_failures : reduction.hasFailure = true ↔ reduction.failures ≠ [] := by
  rw [hasFailure_iff]
  constructor
  · rintro ⟨entry, entryMem, failed⟩
    rcases exists_mem_failures entryMem failed with ⟨cause, causeMem⟩
    exact List.ne_nil_of_mem causeMem
  · intro notEmpty
    rcases List.exists_mem_of_ne_nil _ notEmpty with ⟨⟨stream, cause⟩, causeMem⟩
    exact ⟨_, mem_failures_iff.mp causeMem, rfl⟩

/-- Whether a stream is the least one that has failed. -/
def IsFirstFailure (reduction : Reduction ε α) (stream : StreamId) (cause : ε) : Prop :=
  (stream, .error cause) ∈ reduction.outcomes ∧ ∀ entry ∈ reduction.outcomes,
    isFailure entry.2 = true → (stream.compare entry.1).isLE = true

theorem head?_failures_iff (accounts : reduction.AccountsFor work failFast streams) :
    reduction.failures.head? = some (stream, cause) ↔ reduction.IsFirstFailure stream cause := by
  have sorted := pairwise_failures accounts
  constructor
  · intro first
    rcases List.head?_eq_some_iff.mp first with ⟨others, failuresEq⟩
    refine ⟨mem_failures_iff.mp (List.mem_of_mem_head? first), ?_⟩
    intro entry entryMem failed
    rcases exists_mem_failures entryMem failed with ⟨otherCause, otherMem⟩
    rw [failuresEq] at otherMem sorted
    rcases List.mem_cons.mp otherMem with same | laterMem
    · have itself : stream.compare stream = .eq := Std.ReflCmp.compare_self
      rw [(Prod.mk.inj same).1, itself]
      rfl
    · exact Ordering.isLE_of_eq_lt (List.rel_of_pairwise_cons sorted laterMem)
  · rintro ⟨entryMem, least⟩
    have failedMem := mem_failures_iff.mpr entryMem
    cases failuresEq : reduction.failures with
    | nil => simp [failuresEq] at failedMem
    | cons first others =>
        rw [failuresEq] at failedMem sorted
        rcases List.mem_cons.mp failedMem with same | laterMem
        · rw [List.head?_cons, same]
        · have before := List.rel_of_pairwise_cons sorted laterMem
          have firstMem : (first.1, first.2) ∈ reduction.failures := by simp [failuresEq]
          have notBefore := least _ (mem_failures_iff.mp firstMem) rfl
          exact absurd notBefore (Std.OrientedCmp.not_isLE_of_lt before)

end Reduction

end

/-- Whether an answer of a compaction tells of failures: it is an error exactly if a stream has
failed, and then the error of the least such stream; else it is the manifest. -/
structure Reduction.IsToldBy (reduction : Reduction CompactionError StreamOutput)
    (manifest : Manifest) (answer : Except RunError Manifest) : Prop where
  error_iff : (∃ error, answer = .error error) ↔ reduction.hasFailure = true
  first : ∀ stream cause,
    answer = .error (.stream stream cause) ↔ reduction.IsFirstFailure stream cause
  ok_iff : answer = .ok manifest ↔ reduction.hasFailure = false

theorem isToldBy_verdict {work : StreamId → Except CompactionError StreamOutput} {failFast : Bool}
    {streams : List StreamId} {reduction : Reduction CompactionError StreamOutput}
    {manifest : Manifest} (accounts : reduction.AccountsFor work failFast streams)
    (failuresEq : manifest.failures = reduction.failures) :
    reduction.IsToldBy manifest manifest.verdict := by
  have failed := reduction.hasFailure_iff_failures
  have first (stream : StreamId) (cause : CompactionError) :
      reduction.failures.head? = some (stream, cause) ↔ reduction.IsFirstFailure stream cause :=
    Reduction.head?_failures_iff accounts
  rw [Manifest.verdict, failuresEq]
  cases failuresEq : reduction.failures with
  | nil =>
      simp only [failuresEq, ne_eq, not_true_eq_false, iff_false, Bool.not_eq_true] at failed
      simp only [failuresEq, List.head?_nil, reduceCtorEq, false_iff] at first
      exact ⟨by simp [failed], by simp [first], by simp [failed]⟩
  | cons failure others =>
      simp only [failuresEq, ne_eq, reduceCtorEq, not_false_eq_true, iff_true] at failed
      simp only [failuresEq, List.head?_cons, Option.some.injEq] at first
      refine ⟨by simp [failed], ?_, by simp [failed]⟩
      intro stream cause
      rw [← first]
      simp [Prod.ext_iff]

theorem FileTree.run_write (tree : FileTree) (path : String) (bytes : List UInt8) :
    (Storage.write (m := StateM FileTree) path bytes).run tree =
      pure ((tree.write path bytes).2, (tree.write path bytes).1) := rfl

/-- What a compaction answers, on files as a value, once its manifest is written. -/
theorem run_publish {config : Config} {manifest : Manifest} {tree : FileTree}
    (written : (tree.write (Path.join config.outputDir manifestFileName)
      (Utf8.encodeChars manifest.chars)).2 = true) :
    ((publish config manifest : ExceptT RunError (StateM FileTree) Manifest).run.run tree).1 =
      manifest.verdict := by
  simp only [publish, insist, demand, ExceptT.run_bind, ExceptT.run_liftM, StateT.run_bind,
    StateT.run_map, FileTree.run_write, written]
  cases manifest.verdict <;> rfl

end RowLog
