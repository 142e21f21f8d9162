import RowLog.Proofs.PartitionFiles

/-!
# Selected files against all files

A selection leaves out the files after the window, and of the files before it all but the schema
changes. In a log that is in order this makes a difference to the streams only where a file counts
as one before the window although it holds rows from the very start of the window, which is what
happens when the next file starts at that time too. Main statement: `Selection.sameStreams_iff`.
-/

namespace RowLog

open RowLog.Partition

namespace LogFile

/-- The time of the first record, where there is one. -/
def startTime (file : LogFile) : Timestamp :=
  (file.contents.records.head?.map Record.stamp).getD 0

def dated (file : LogFile) : DatedFile :=
  ⟨file.startTime, file⟩

def hasRecords (file : LogFile) : Bool :=
  !file.contents.records.isEmpty

theorem firstStamp_of_readable {file : LogFile} (readable : file.contents.failure = none) :
    file.firstStamp = .ok (file.contents.records.head?.map Record.stamp) := by
  rcases contents : file.contents with ⟨_ | ⟨record, rest⟩, failure⟩
  · simp only [contents] at readable
    simp [firstStamp, contents, readable]
  · simp [firstStamp, contents]

theorem exists_record_at_startTime {file : LogFile} (hasRecords : file.hasRecords = true) :
    ∃ record ∈ file.contents.records, record.stamp = file.startTime := by
  simp only [LogFile.hasRecords, startTime] at hasRecords ⊢
  cases records : file.contents.records with
  | nil => simp [records] at hasRecords
  | cons record rest => exact ⟨record, by simp, by simp⟩

end LogFile

/-- The files that hold records, in the order of their first ones. -/
def inOrder (files : List LogFile) : List LogFile :=
  (files.filter LogFile.hasRecords).mergeSort fun first second =>
    first.dated.comesBefore second.dated

theorem inOrder_of_sorted (files : List LogFile)
    (hasRecords : ∀ file ∈ files, file.hasRecords = true)
    (sorted : files.Pairwise fun first second => first.dated.comesBefore second.dated = true) :
    inOrder files = files := by
  simp only [inOrder, List.filter_eq_self.mpr hasRecords]
  exact List.mergeSort_of_pairwise sorted

namespace Selection

variable {window : Window} {files : List LogFile}

theorem ofFiles_dated (readable : ∀ file ∈ files, file.contents.failure = none) :
    DatedFile.ofFiles files = .ok ((files.filter LogFile.hasRecords).map LogFile.dated) := by
  induction files with
  | nil => rfl
  | cons file rest ih =>
      have later := ih fun other otherMem => readable other (by simp [otherMem])
      have first := LogFile.firstStamp_of_readable (readable file (by simp))
      cases records : file.contents.records with
      | nil =>
          simp only [records, List.head?_nil, Option.map_none] at first
          simp [DatedFile.ofFiles, first, later, LogFile.hasRecords, records, bind, Except.bind]
      | cons record others =>
          simp only [records, List.head?_cons, Option.map_some] at first
          simp [DatedFile.ofFiles, first, later, LogFile.hasRecords, LogFile.dated,
            LogFile.startTime, records, bind, Except.bind, pure, Except.pure]

theorem ofFiles_of_readable (window : Window)
    (readable : ∀ file ∈ files, file.contents.failure = none) :
    ofFiles window files = .ok (ofDated window ((inOrder files).map LogFile.dated)) := by
  have sorted : ((files.filter LogFile.hasRecords).map LogFile.dated).mergeSort
      DatedFile.comesBefore = (inOrder files).map LogFile.dated := by
    simp only [inOrder]
    rw [List.map_mergeSort]
    intro first _ second _
    rfl
  simp only [ofFiles, ofFiles_dated readable, bind, Except.bind, pure, Except.pure, sorted]

/-- Whether records are in the order of their times. -/
def IsOrdered (log : List Record) : Prop :=
  log.Pairwise fun first second => first.stamp ≤ second.stamp

theorem recordsOf_cons (file : LogFile) (files : List LogFile) :
    recordsOf (file :: files) = file.contents.records ++ recordsOf files := rfl

theorem recordsOf_append (first second : List LogFile) :
    recordsOf (first ++ second) = recordsOf first ++ recordsOf second := by
  simp [recordsOf]

/-- No record is from before the time at which the first file starts. -/
theorem startTime_le {file : LogFile} {rest : List LogFile} (hasRecords : file.hasRecords = true)
    (ordered : IsOrdered (recordsOf (file :: rest))) {record : Record}
    (recordMem : record ∈ recordsOf (file :: rest)) : file.startTime ≤ record.stamp := by
  cases records : file.contents.records with
  | nil => simp [LogFile.hasRecords, records] at hasRecords
  | cons first others =>
      simp only [IsOrdered, recordsOf_cons, records, List.cons_append, List.pairwise_cons]
        at ordered
      simp only [recordsOf_cons, records, List.cons_append, List.mem_cons] at recordMem
      have start : file.startTime = first.stamp := by simp [LogFile.startTime, records]
      rcases recordMem with rfl | later
      · simp [start]
      · simpa [start] using ordered.1 record later

/-- Whether files in order are those before the window, those that may hold records of it, and those
that are left out. -/
structure IsSplit (window : Window) (files : List LogFile) (selection : Selection)
    (dropped : List LogFile) : Prop where
  files_eq : files = selection.history ++ selection.files ++ dropped
  /-- What is before the window is followed by a record that is not from after its start. -/
  followed : ∀ record ∈ recordsOf selection.history,
    ∃ next, [record, next].Sublist (recordsOf files) ∧ next.stamp ≤ window.start
  late : ∀ record ∈ recordsOf dropped, window.endsBefore record.stamp = true

namespace IsSplit

variable {file next : LogFile} {rest dropped : List LogFile} {selection : Selection}

theorem of_endsBefore (hasRecords : file.hasRecords = true)
    (ordered : IsOrdered (recordsOf (file :: rest)))
    (after : window.endsBefore file.startTime = true) :
    IsSplit window (file :: rest) ⟨[], []⟩ (file :: rest) where
  files_eq := rfl
  followed := by simp [recordsOf]
  late := by
    intro record recordMem
    have later := startTime_le hasRecords ordered recordMem
    rcases Window.endsBefore_iff.mp after with ⟨bounded, passed⟩
    exact Window.endsBefore_iff.mpr ⟨bounded, Int64.lt_of_lt_of_le passed later⟩

theorem cons_history (split : IsSplit window (next :: rest) selection dropped)
    (hasRecords : next.hasRecords = true) (early : next.startTime ≤ window.start) :
    IsSplit window (file :: next :: rest)
      { selection with history := file :: selection.history } dropped where
  files_eq := congrArg (file :: ·) split.files_eq
  followed := by
    intro record recordMem
    simp only [recordsOf_cons, List.mem_append] at recordMem
    rcases recordMem with inFile | inHistory
    · rcases LogFile.exists_record_at_startTime hasRecords with ⟨first, firstMem, firstStamp⟩
      have inNext : first ∈ recordsOf (next :: rest) := by simp [recordsOf, firstMem]
      refine ⟨first, ?_, by rwa [firstStamp]⟩
      exact (List.singleton_sublist.mpr inFile).append (List.singleton_sublist.mpr inNext)
    · rcases split.followed record inHistory with ⟨second, follows, secondStamp⟩
      exact ⟨second, follows.trans (List.sublist_append_right _ _), secondStamp⟩
  late := split.late

/-- If there are files before the window, the first one of all starts no later than the window. -/
theorem startTime_le_of_history (split : IsSplit window (next :: rest) selection dropped)
    (hasRecords : next.hasRecords = true) (ordered : IsOrdered (recordsOf (next :: rest)))
    (notEmpty : selection.history ≠ []) : next.startTime ≤ window.start := by
  rcases LogFile.exists_record_at_startTime hasRecords with ⟨first, firstMem, firstStamp⟩
  have inHistory : first ∈ recordsOf selection.history := by
    rcases List.exists_cons_of_ne_nil notEmpty with ⟨oldest, others, historyEq⟩
    have heads := split.files_eq
    rw [historyEq, List.cons_append, List.cons_append, List.cons.injEq] at heads
    simp [historyEq, recordsOf_cons, ← heads.1, firstMem]
  rcases split.followed first inHistory with ⟨second, follows, secondStamp⟩
  have before := List.pairwise_pair.mp (ordered.sublist follows)
  rw [← firstStamp]
  exact Int64.le_trans before secondStamp

theorem cons_files (split : IsSplit window rest selection dropped)
    (noHistory : selection.history = []) :
    IsSplit window (file :: rest) { selection with files := file :: selection.files } dropped where
  files_eq := by
    have files_eq := split.files_eq
    rw [noHistory] at files_eq ⊢
    exact congrArg (file :: ·) files_eq
  followed := by simp [noHistory, recordsOf]
  late := split.late

end IsSplit

theorem exists_isSplit (window : Window) (files : List LogFile)
    (hasRecords : ∀ file ∈ files, file.hasRecords = true)
    (ordered : IsOrdered (recordsOf files)) :
    ∃ dropped, IsSplit window files (ofDated window (files.map LogFile.dated)) dropped := by
  induction files with
  | nil => exact ⟨[], rfl, by simp [ofDated, recordsOf], by simp [recordsOf]⟩
  | cons file rest ih =>
      have restOrdered : IsOrdered (recordsOf rest) := by
        simp only [IsOrdered, recordsOf_cons, List.pairwise_append] at ordered
        exact ordered.2.1
      have restHasRecords : ∀ other ∈ rest, other.hasRecords = true :=
        fun other otherMem => hasRecords other (by simp [otherMem])
      rcases ih restHasRecords restOrdered with ⟨dropped, split⟩
      simp only [List.map_cons, ofDated]
      by_cases after : window.endsBefore file.dated.stamp = true
      · rw [if_pos after]
        exact ⟨file :: rest, .of_endsBefore (hasRecords file (by simp)) ordered after⟩
      · rw [if_neg after]
        refine ⟨dropped, ?_⟩
        cases rest with
        | nil => exact split.cons_files rfl
        | cons next more =>
            have nextHasRecords := restHasRecords next (by simp)
            by_cases early : next.startTime ≤ window.start
            · have isEarly : ((next :: more).map LogFile.dated).head?.any
                  (fun next => next.stamp ≤ window.start) = true := by
                simp [LogFile.dated, early]
              rw [if_pos isEarly]
              exact split.cons_history nextHasRecords early
            · have isLate : ¬((next :: more).map LogFile.dated).head?.any
                  (fun next => next.stamp ≤ window.start) = true := by
                simp [LogFile.dated, early]
              rw [if_neg isLate]
              apply split.cons_files
              by_contra notEmpty
              exact early (split.startTime_le_of_history nextHasRecords restOrdered notEmpty)

end Selection

/-! ### Files before the window -/

namespace Partition

variable {scope : Scope}

theorem sameStreams_foldl_addOldRecord (scope : Scope) (log : List Record) (partition : Partition) :
    SameStreams (log.foldl (addOldRecord scope) partition)
      (partition.appendAll scope.budget ((log.filter Record.isChange).flatMap scope.entries)) := by
  induction log generalizing partition with
  | nil => exact .refl partition
  | cons record rest ih =>
      have later := ih (partition.addOldRecord scope record)
      cases record with
      | schemaChange change =>
          have first := sameStreams_addRecord scope partition (.schemaChange change)
          have both := later.trans (first.appendAll _ _)
          simpa [appendAll, List.filter_cons, Record.isChange] using both
      | rowBatch batch =>
          have first : SameStreams (partition.addOldRecord scope (.rowBatch batch)) partition :=
            ⟨rfl, rfl⟩
          have both := later.trans (first.appendAll _ _)
          simpa [List.filter_cons, Record.isChange] using both

theorem changes_addOldRecord (scope : Scope) (partition : Partition) (record : Record) :
    (partition.addOldRecord scope record).changes =
      partition.changes ++ (scope.remembered? record).toList := by
  cases record with
  | schemaChange change => exact changes_addRecord partition (.schemaChange change)
  | rowBatch batch => exact (List.append_nil _).symm

theorem entries_of_endsBefore {record : Record}
    (late : scope.window.endsBefore record.stamp = true) : scope.entries record = [] := by
  apply Scope.entries_of_outside record
  simp [Window.contains, late]

theorem remembered?_of_endsBefore {record : Record}
    (late : scope.window.endsBefore record.stamp = true) : scope.remembered? record = none := by
  cases record with
  | schemaChange change =>
      have notKept : scope.window.endsBefore change.stamp = true := late
      simp [Scope.remembered?, notKept]
  | rowBatch batch => rfl

theorem entries_append_of_endsBefore (log : List Record) {dropped : List Record}
    (late : ∀ record ∈ dropped, scope.window.endsBefore record.stamp = true) :
    (log ++ dropped).flatMap scope.entries = log.flatMap scope.entries := by
  have nothing : dropped.flatMap scope.entries = [] :=
    List.flatMap_eq_nil_iff.mpr fun record recordMem =>
      entries_of_endsBefore (late record recordMem)
  simp [nothing]

theorem remembered_append_of_endsBefore (log : List Record) {dropped : List Record}
    (late : ∀ record ∈ dropped, scope.window.endsBefore record.stamp = true) :
    (log ++ dropped).filterMap scope.remembered? = log.filterMap scope.remembered? := by
  have nothing : dropped.filterMap scope.remembered? = [] :=
    List.filterMap_eq_nil_iff.mpr fun record recordMem =>
      remembered?_of_endsBefore (late record recordMem)
  simp [nothing]

/-- Where two logs give the same, every stream gets the same of both. -/
theorem flatMap_share_of_sameStreams {first second : List Record}
    (same : SameStreams (empty.appendAll scope.budget (first.flatMap scope.entries))
      (empty.appendAll scope.budget (second.flatMap scope.entries))) (stream : StreamId) :
    first.flatMap (scope.share stream) = second.flatMap (scope.share stream) := by
  have records := congrArg Passes.records (same.passesOf_eq stream)
  simpa [records_appendAll, Scope.entriesOf_flatMap_entries] using records

/-- A record that gives no stream anything in particular gives none anything. -/
theorem entries_eq_nil_of_share {record : Record}
    (nothing : ∀ stream, scope.share stream record = []) : scope.entries record = [] := by
  apply List.eq_nil_iff_forall_not_mem.mpr
  intro entry entryMem
  have mine := Scope.entriesOf_ne_nil entryMem
  rw [Scope.entriesOf_entries] at mine
  exact mine (nothing entry.1)

theorem entries_rowBatch_eq_nil_iff {batch : RowBatch} :
    scope.entries (.rowBatch batch) = [] ↔
      (scope.window.contains batch.stamp = true →
        ∀ event ∈ batch.events, scope.filter.allows event.schema (some event.table) = false) := by
  by_cases inside : scope.window.contains batch.stamp = true
  · have nothingKept : scope.batchEntries batch = [] ↔
        (batch.events.filter fun event =>
          scope.filter.allows event.schema (some event.table)) = [] := by
      simp only [Scope.batchEntries, List.map_eq_nil_iff]
      cases batch.events.filter fun event =>
          scope.filter.allows event.schema (some event.table) with
      | nil => simp
      | cons event rest => simp [List.eraseDups_cons]
    simp [Scope.entries_rowBatch inside, nothingKept, inside]
  · simp [Scope.entries_of_outside (.rowBatch batch) inside, inside]

/-! ### A log in parts -/

variable {dropped : List Record}

theorem changes_of_parts (history log : List Record)
    (late : ∀ record ∈ dropped, scope.window.endsBefore record.stamp = true) :
    (log.foldl (addRecord scope) (history.foldl (addOldRecord scope) empty)).changes =
      ((history ++ log ++ dropped).foldl (addRecord scope) empty).changes := by
  have old := changes_foldl (changes_addOldRecord scope) history empty
  rw [changes_foldl_addRecord, changes_foldl_addRecord, old, remembered_append_of_endsBefore _ late,
    List.filterMap_append, List.append_assoc]

/-- Parts of a log give all streams the same as the whole log exactly if no row batch among the old
records gives any of them anything. -/
theorem sameStreams_of_parts_iff (history log : List Record)
    (late : ∀ record ∈ dropped, scope.window.endsBefore record.stamp = true) :
    SameStreams (log.foldl (addRecord scope) (history.foldl (addOldRecord scope) empty))
        ((history ++ log ++ dropped).foldl (addRecord scope) empty) ↔
      ∀ record ∈ history, record.isChange = false → scope.entries record = [] := by
  have parts : SameStreams (log.foldl (addRecord scope) (history.foldl (addOldRecord scope) empty))
      (empty.appendAll scope.budget
        ((history.filter Record.isChange ++ log).flatMap scope.entries)) := by
    have old := sameStreams_foldl_addOldRecord scope history empty
    have both := (sameStreams_foldl_addRecord scope log _).trans (old.appendAll _ _)
    simpa [appendAll] using both
  have whole := sameStreams_foldl_addRecord scope (history ++ log ++ dropped) empty
  rw [entries_append_of_endsBefore _ late] at whole
  constructor
  · intro same record recordMem notChange
    apply entries_eq_nil_of_share
    intro stream
    have shares := flatMap_share_of_sameStreams (parts.symm.trans (same.trans whole)) stream
    rw [List.flatMap_append, List.flatMap_append, List.append_cancel_right_eq] at shares
    exact flatMap_filter_eq_iff.mp shares record recordMem notChange
  · intro nothing
    have entries := flatMap_filter_eq_iff.mpr nothing
    rw [List.flatMap_append, entries, ← List.flatMap_append] at parts
    exact parts.trans whole.symm

end Partition

namespace Selection

/-- A window whose end does not come before its start holds its start, and of what comes no later
nothing else. -/
theorem contains_iff_eq_start {window : Window}
    (proper : window.stop = 0 ∨ window.start ≤ window.stop) {stamp : Timestamp}
    (early : stamp ≤ window.start) :
    window.contains stamp = true ↔ stamp = window.start := by
  constructor
  · intro inside
    exact Int64.le_antisymm early (Window.contains_iff.mp inside).1
  · rintro rfl
    exact Window.contains_iff.mpr ⟨Int64.le_refl _, proper⟩

theorem mem_inOrder_iff {files : List LogFile} {file : LogFile} :
    file ∈ inOrder files ↔ file ∈ files ∧ file.hasRecords = true := by
  simp [inOrder]

/-- The selection of files that can be read is split into the records before the window, of which
only the schema changes count, and those of the selected files. -/
theorem exists_parts (scope : Scope) {files : List LogFile}
    (readable : ∀ file ∈ files, file.contents.failure = none)
    (ordered : IsOrdered (recordsOf (inOrder files))) :
    ∃ selection dropped, ofFiles scope.window files = .ok selection ∧
      ofSelection scope selection = .ok ((recordsOf selection.files).foldl (addRecord scope)
        ((recordsOf selection.history).foldl (addOldRecord scope) empty)) ∧
      recordsOf (inOrder files) =
        recordsOf selection.history ++ recordsOf selection.files ++ dropped ∧
      (∀ record ∈ recordsOf selection.history, ∃ next,
        [record, next].Sublist (recordsOf (inOrder files)) ∧ next.stamp ≤ scope.window.start) ∧
      ∀ record ∈ dropped, scope.window.endsBefore record.stamp = true := by
  rcases exists_isSplit scope.window (inOrder files)
      (fun file fileMem => (mem_inOrder_iff.mp fileMem).2) ordered with ⟨dropped, split⟩
  refine ⟨_, recordsOf dropped, ofFiles_of_readable scope.window readable,
    ofSelection_of_readable scope _ ?_, ?_, split.followed, split.late⟩
  · intro file fileMem
    have inFiles : file ∈ inOrder files := by
      rw [split.files_eq]
      exact List.mem_append_left _ fileMem
    exact readable file (mem_inOrder_iff.mp inFiles).1
  · rw [← recordsOf_append, ← recordsOf_append, ← split.files_eq]

theorem ofSelection_inOrder (scope : Scope) {files : List LogFile}
    (readable : ∀ file ∈ files, file.contents.failure = none) :
    ofSelection scope ⟨inOrder files, []⟩ =
      .ok ((recordsOf (inOrder files)).foldl (addRecord scope) empty) := by
  apply ofSelection_of_readable
  intro file fileMem
  exact readable file (mem_inOrder_iff.mp (by simpa using fileMem)).1

/-- Splitting the selected files gives the same schema changes as splitting all files, and the same
streams exactly if no file that is set aside holds a row of the start of the window. -/
theorem sameStreams_iff (scope : Scope) (files : List LogFile)
    (readable : ∀ file ∈ files, file.contents.failure = none)
    (ordered : IsOrdered (recordsOf (inOrder files)))
    (proper : scope.window.stop = 0 ∨ scope.window.start ≤ scope.window.stop) :
    ∃ selection separate whole, ofFiles scope.window files = .ok selection ∧
      ofSelection scope selection = .ok separate ∧
      ofSelection scope ⟨inOrder files, []⟩ = .ok whole ∧
      separate.schemaChanges = whole.schemaChanges ∧
      (SameStreams separate whole ↔
        ∀ file ∈ selection.history, ∀ batch, .rowBatch batch ∈ file.contents.records →
          batch.stamp = scope.window.start → ∀ event ∈ batch.events,
            scope.filter.allows event.schema (some event.table) = false) := by
  rcases exists_parts scope readable ordered with
    ⟨selection, dropped, selected, separate, log, followed, late⟩
  have early : ∀ record ∈ recordsOf selection.history, record.stamp ≤ scope.window.start := by
    intro record recordMem
    rcases followed record recordMem with ⟨next, follows, nextStamp⟩
    have before := List.pairwise_pair.mp (ordered.sublist follows)
    exact Int64.le_trans before nextStamp
  refine ⟨selection, _, _, selected, separate, ofSelection_inOrder scope readable, ?_, ?_⟩
  · have changes := changes_of_parts (recordsOf selection.history) (recordsOf selection.files) late
    rw [← log] at changes
    simp only [schemaChanges]
    rw [changes]
  · have streams := sameStreams_of_parts_iff (recordsOf selection.history)
      (recordsOf selection.files) late
    rw [← log] at streams
    refine streams.trans ?_
    constructor
    · intro nothing file fileMem batch batchMem stamp
      have recordMem : .rowBatch batch ∈ recordsOf selection.history :=
        List.mem_flatMap.mpr ⟨file, fileMem, batchMem⟩
      apply entries_rowBatch_eq_nil_iff.mp (nothing _ recordMem rfl)
      exact (contains_iff_eq_start proper (early _ recordMem)).mpr stamp
    · intro nothing record recordMem notChange
      cases record with
      | schemaChange change => contradiction
      | rowBatch batch =>
          rcases List.mem_flatMap.mp recordMem with ⟨file, fileMem, batchMem⟩
          apply entries_rowBatch_eq_nil_iff.mpr
          intro inside
          apply nothing file fileMem batch batchMem
          exact (contains_iff_eq_start proper (early _ recordMem)).mp inside

/-- A window from the time 10 on, and a filter that admits everything. -/
def fromTen : Scope := ⟨⟨10, 0⟩, ⟨[], [], [], []⟩, 100⟩

def oneRow (path : String) (stamp : Timestamp) : LogFile :=
  ⟨path, some (logBytes [.rowBatch ⟨stamp, [⟨"s", "t", .insert, []⟩]⟩])⟩

set_option maxRecDepth 4000 in
theorem sameStreams_iff_of_earlier_row :
    (∀ file ∈ [oneRow "a" 9, oneRow "b" 10], file.contents.failure = none) ∧
      IsOrdered (recordsOf (inOrder [oneRow "a" 9, oneRow "b" 10])) ∧
      (fromTen.window.stop = 0 ∨ fromTen.window.start ≤ fromTen.window.stop) ∧
      ∃ selection separate whole,
        ofFiles fromTen.window [oneRow "a" 9, oneRow "b" 10] = .ok selection ∧
        ofSelection fromTen selection = .ok separate ∧
        ofSelection fromTen ⟨inOrder [oneRow "a" 9, oneRow "b" 10], []⟩ = .ok whole ∧
        separate.schemaChanges = whole.schemaChanges ∧
        (SameStreams separate whole ↔
          ∀ file ∈ selection.history, ∀ batch, .rowBatch batch ∈ file.contents.records →
            batch.stamp = fromTen.window.start → ∀ event ∈ batch.events,
              fromTen.filter.allows event.schema (some event.table) = false) := by
  have readable : ∀ file ∈ [oneRow "a" 9, oneRow "b" 10], file.contents.failure = none := by
    decide +kernel
  have sorted := inOrder_of_sorted [oneRow "a" 9, oneRow "b" 10] (by decide +kernel)
    (by decide +kernel)
  have ordered : IsOrdered (recordsOf (inOrder [oneRow "a" 9, oneRow "b" 10])) := by
    simp only [IsOrdered, sorted]
    decide +kernel
  have proper : fromTen.window.stop = 0 ∨ fromTen.window.start ≤ fromTen.window.stop := .inl rfl
  exact ⟨readable, ordered, proper, sameStreams_iff fromTen _ readable ordered proper⟩

set_option maxRecDepth 4000 in
/-- Of two files that start at the start of the window the first one is set aside. -/
theorem not_sameStreams_of_shared_start :
    (∀ file ∈ [oneRow "a" 10, oneRow "b" 10], file.contents.failure = none) ∧
      IsOrdered (recordsOf (inOrder [oneRow "a" 10, oneRow "b" 10])) ∧
      (fromTen.window.stop = 0 ∨ fromTen.window.start ≤ fromTen.window.stop) ∧
      ∃ selection separate whole,
        ofFiles fromTen.window [oneRow "a" 10, oneRow "b" 10] = .ok selection ∧
        ofSelection fromTen selection = .ok separate ∧
        ofSelection fromTen ⟨inOrder [oneRow "a" 10, oneRow "b" 10], []⟩ = .ok whole ∧
        ¬SameStreams separate whole := by
  have readable : ∀ file ∈ [oneRow "a" 10, oneRow "b" 10], file.contents.failure = none := by
    decide +kernel
  have sorted := inOrder_of_sorted [oneRow "a" 10, oneRow "b" 10] (by decide +kernel)
    (by decide +kernel)
  have selected : ofFiles fromTen.window [oneRow "a" 10, oneRow "b" 10] =
      .ok ⟨[oneRow "b" 10], [oneRow "a" 10]⟩ := by
    rw [ofFiles_of_readable fromTen.window readable, sorted]
    decide +kernel
  refine ⟨readable, ?_, .inl rfl, _, _, _, selected, ofSelection_of_readable _ _ ?_,
    ofSelection_of_readable _ _ ?_, ?_⟩
  · simp only [IsOrdered, sorted]
    decide +kernel
  · intro file fileMem
    exact readable file (by simpa using fileMem)
  · intro file fileMem
    exact readable file (by simpa [sorted] using fileMem)
  · intro same
    have lengths := congrArg (fun passes => passes.records.length)
      (same.passesOf_eq ⟨"s", some "t"⟩)
    simp only [sorted] at lengths
    exact absurd lengths (by decide +kernel)

end Selection

end RowLog
