import RowLog.Proofs.PartitionShares
import RowLog.Proofs.StreamFiles
import RowLog.Proofs.WorkingFiles

/-!
# The working files of a partition

While a log is split, the file of every pass of a stream is to hold the records of that pass, one
after the other, as long as no two streams keep their files in one directory. So when all files are
complete, those of a stream hold its share of the log, pass by pass. Main statement:
`Partition.isProjection_ofSelection`.
-/

namespace RowLog

theorem logBytes_append (first second : List Record) :
    logBytes (first ++ second) = logBytes first ++ logBytes second := by
  simp [logBytes, frames]

theorem logBytes_singleton (record : Record) : logBytes [record] = frame record.encode := by
  simp [logBytes, frames]

theorem Passes.append_cases (budget : Nat) (passes : Passes) (record : Record) :
    (passes.append budget record).finished = passes.finished ∧
        (passes.append budget record).current = passes.current ++ [record] ∨
      passes.currentSize ≠ 0 ∧ (passes.append budget record).finished = passes.toList ∧
        (passes.append budget record).current = [record] := by
  cases record with
  | schemaChange => exact .inl ⟨rfl, rfl⟩
  | rowBatch batch =>
      rw [append]
      split
      next full =>
        right
        simp only [isFullFor, Bool.and_eq_true, decide_eq_true_eq] at full
        exact ⟨by omega, rfl, rfl⟩
      next => exact .inl ⟨rfl, rfl⟩

theorem Passes.current_append_ne_nil (budget : Nat) (passes : Passes) (record : Record) :
    (passes.append budget record).current ≠ [] := by
  rcases passes.append_cases budget record with ⟨-, current⟩ | ⟨-, -, current⟩
  · simp [current]
  · simp [current]

theorem Passes.getElem?_toList_of_ne {first second : Passes}
    (finished : first.finished = second.finished) {pass : Nat}
    (notLast : pass ≠ second.finished.length) : first.toList[pass]? = second.toList[pass]? := by
  rw [toList, toList, finished, List.getElem?_append, List.getElem?_append]
  split
  next => rfl
  next after =>
    rw [List.getElem?_singleton, List.getElem?_singleton, if_neg (by omega), if_neg (by omega)]

namespace WorkingFiles

variable {working : WorkingFiles} {stream : StreamId} {pass : Nat} {payload : List UInt8}

theorem append_first (working : WorkingFiles) (stream : StreamId) (pass : Nat)
    (payload : List UInt8) :
    working.append stream pass true payload =
      ((working.close stream).create stream (stream.passFile pass)).write stream payload := rfl

theorem append_later (working : WorkingFiles) (stream : StreamId) (pass : Nat)
    (payload : List UInt8) :
    working.append stream pass false payload = working.write stream payload :=
  rfl

theorem exists_writer_create (working : WorkingFiles) (stream : StreamId) (path : String) :
    ∃ writer, (working.create stream path).writers[stream]? = some writer ∧
      writer.names = Path.names path := by
  refine ⟨⟨Path.names path, 0, []⟩, ?_, rfl⟩
  rw [getElem?_writers_create, if_pos rfl]

theorem IsFree.close {path : String} (free : working.IsFree stream path) :
    (working.close stream).IsFree stream path := by
  intro other writer opened different
  rw [getElem?_writers_close, Option.ite_none_left_eq_some] at opened
  exact free other writer opened.2 different

theorem IsSound.append_first (sound : working.IsSound)
    (free : working.IsFree stream (stream.passFile pass)) :
    (working.append stream pass true payload).IsSound := by
  have created := (sound.close stream).create free.close
  rcases exists_writer_create (working.close stream) stream (stream.passFile pass) with
    ⟨writer, opened, named⟩
  rw [WorkingFiles.append_first]
  exact created.write opened

theorem willHold_append_first (sound : working.IsSound)
    (free : working.IsFree stream (stream.passFile pass)) :
    (working.append stream pass true payload).WillHold (Path.names (stream.passFile pass))
      (frame payload) := by
  have created := (sound.close stream).create free.close
  rcases exists_writer_create (working.close stream) stream (stream.passFile pass) with
    ⟨writer, opened, named⟩
  have empty := willHold_create free.close
  rw [WorkingFiles.append_first]
  exact empty.write created opened named

theorem WillHold.append_first {names : List String} {bytes : List UInt8}
    (holds : working.WillHold names bytes) (sound : working.IsSound)
    (free : working.IsFree stream (stream.passFile pass))
    (different : names ≠ Path.names (stream.passFile pass)) :
    (working.append stream pass true payload).WillHold names bytes := by
  have closed : (working.close stream).writers[stream]? = none := by
    rw [getElem?_writers_close, if_pos rfl]
  have created := (sound.close stream).create free.close
  rcases exists_writer_create (working.close stream) stream (stream.passFile pass) with
    ⟨writer, opened, named⟩
  have kept := (holds.close sound stream).create_other closed different
  rw [WorkingFiles.append_first]
  exact kept.write_other created opened (named ▸ different)

theorem getElem?_writers_append_first (sound : working.IsSound)
    (free : working.IsFree stream (stream.passFile pass)) (payload : List UInt8) :
    ∃ writer : FileWriter, writer.names = Path.names (stream.passFile pass) ∧
      ∀ other, (working.append stream pass true payload).writers[other]? =
        if stream = other then some writer else working.writers[other]? := by
  have created := (sound.close stream).create free.close
  rcases exists_writer_create (working.close stream) stream (stream.passFile pass) with
    ⟨writer, opened, named⟩
  have adds := FileWriter.adds_putFrame (created.atEnd opened) payload
  refine ⟨_, adds.names_eq.trans named, fun other => ?_⟩
  rw [WorkingFiles.append_first, getElem?_writers_write opened, getElem?_writers_create,
    getElem?_writers_close]
  by_cases same : stream = other
  · rw [if_pos same, if_pos same]
  · rw [if_neg same, if_neg same, if_neg same, if_neg same]

end WorkingFiles

namespace Partition

/-- What holds of the working files while a log is split, of which the streams are among some that
are given. -/
structure IsWritten (live : StreamId → Prop) (partition : Partition) : Prop where
  live : ∀ {stream : StreamId}, stream ∈ partition.streams → live stream
  sound : partition.working.IsSound
  opened : ∀ {stream : StreamId}, stream ∈ partition.streams →
    ∃ writer, partition.working.writers[stream]? = some writer
  names : ∀ {stream : StreamId} {writer : FileWriter},
    partition.working.writers[stream]? = some writer → stream ∈ partition.streams ∧
      writer.names = Path.names (stream.passFile (partition.passesOf stream).finished.length)
  current : ∀ {stream : StreamId}, stream ∈ partition.streams →
    (partition.passesOf stream).current ≠ []
  holds : ∀ {stream : StreamId}, stream ∈ partition.streams →
    ∀ {pass : Nat} {records : List Record},
      (partition.passesOf stream).toList[pass]? = some records →
        partition.working.WillHold (Path.names (stream.passFile pass)) (logBytes records)

variable {live : StreamId → Prop} {budget : Nat} {partition : Partition} {stream : StreamId}
  {record : Record}

theorem isWritten_empty : IsWritten live empty := by
  have noStream (stream : StreamId) : stream ∉ empty.streams := by simp [empty]
  have noWriter (stream : StreamId) (writer : FileWriter) :
      empty.working.writers[stream]? ≠ some writer := by
    simp [empty, WorkingFiles.empty]
  constructor
  case live => exact fun present => absurd present (noStream _)
  case sound =>
    exact ⟨fun opened => absurd opened (noWriter _ _), fun opened => absurd opened (noWriter _ _)⟩
  case opened => exact fun present => absurd present (noStream _)
  case names => exact fun opened => absurd opened (noWriter _ _)
  case current => exact fun present => absurd present (noStream _)
  case holds => exact fun present => absurd present (noStream _)

theorem passesOf_of_notMem (absent : stream ∉ partition.streams) :
    partition.passesOf stream = .empty :=
  Std.ExtTreeMap.getD_eq_fallback absent

theorem working_append (budget : Nat) (partition : Partition) (stream : StreamId)
    (record : Record) :
    (partition.append budget stream record).working =
      partition.working.append stream
        ((partition.passesOf stream).append budget record).finished.length
        (((partition.passesOf stream).append budget record).current.length = 1) record.encode := rfl

/-- The file of a pass that a stream has not reached belongs to no other stream. -/
theorem IsWritten.isFree (written : partition.IsWritten live) (own : StreamId.HaveOwnFiles live)
    (streamLive : live stream) (pass : Nat) :
    partition.working.IsFree stream (stream.passFile pass) := by
  intro other writer opened different same
  have named := written.names opened
  have otherLive := written.live named.1
  exact different (own.names_passFile_inj streamLive otherLive (same.symm.trans named.2)).1

theorem IsWritten.live_append (written : partition.IsWritten live) (streamLive : live stream)
    {other : StreamId} (present : other ∈ (partition.append budget stream record).streams) :
    live other := by
  rcases (mem_streams_append partition stream other record).mp present with rfl | present
  · exact streamLive
  · exact written.live present

theorem IsWritten.current_append (written : partition.IsWritten live) {other : StreamId}
    (present : other ∈ (partition.append budget stream record).streams) :
    ((partition.append budget stream record).passesOf other).current ≠ [] := by
  rw [passesOf_append]
  split
  next => exact Passes.current_append_ne_nil budget _ record
  next different =>
    rcases (mem_streams_append partition stream other record).mp present with rfl | present
    · exact absurd rfl different
    · exact written.current present

/-! A record that starts a pass finds the passes before it finished. -/

theorem working_append_first
    (current : ((partition.passesOf stream).append budget record).current = [record]) :
    (partition.append budget stream record).working =
      partition.working.append stream
        ((partition.passesOf stream).append budget record).finished.length true record.encode := by
  rw [working_append]
  simp [current]

theorem IsWritten.holds_append_first (written : partition.IsWritten live)
    (own : StreamId.HaveOwnFiles live) (streamLive : live stream)
    (current : ((partition.passesOf stream).append budget record).current = [record])
    (finished : ∀ {pass : Nat} {records : List Record},
      ((partition.passesOf stream).append budget record).finished[pass]? = some records →
        stream ∈ partition.streams ∧ (partition.passesOf stream).toList[pass]? = some records)
    {other : StreamId} (present : other ∈ (partition.append budget stream record).streams)
    {pass : Nat} {records : List Record}
    (atPass : ((partition.append budget stream record).passesOf other).toList[pass]? =
      some records) :
    (partition.append budget stream record).working.WillHold
      (Path.names (other.passFile pass)) (logBytes records) := by
  have free := written.isFree own streamLive
    ((partition.passesOf stream).append budget record).finished.length
  rw [passesOf_append] at atPass
  rw [working_append_first current]
  split at atPass
  next same =>
    subst same
    rw [Passes.toList, current, List.getElem?_append] at atPass
    split at atPass
    next before =>
      rcases finished atPass with ⟨present, atPass⟩
      apply (written.holds present atPass).append_first written.sound free
      intro sameFile
      have samePass := (own.names_passFile_inj streamLive streamLive sameFile).2
      omega
    next after =>
      have isLast := List.getElem?_singleton.symm.trans atPass
      rw [Option.ite_none_right_eq_some] at isLast
      have reached :
          pass = ((partition.passesOf stream).append budget record).finished.length := by
        omega
      rw [reached, ← Option.some_inj.mp isLast.2, logBytes_singleton]
      exact WorkingFiles.willHold_append_first written.sound free
  next different =>
    rcases (mem_streams_append partition stream other record).mp present with rfl | present
    · exact absurd rfl different
    · apply (written.holds present atPass).append_first written.sound free
      intro sameFile
      exact different (own.names_passFile_inj streamLive (written.live present) sameFile.symm).1

theorem IsWritten.append_first (written : partition.IsWritten live)
    (own : StreamId.HaveOwnFiles live) (streamLive : live stream)
    (current : ((partition.passesOf stream).append budget record).current = [record])
    (finished : ∀ {pass : Nat} {records : List Record},
      ((partition.passesOf stream).append budget record).finished[pass]? = some records →
        stream ∈ partition.streams ∧ (partition.passesOf stream).toList[pass]? = some records) :
    (partition.append budget stream record).IsWritten live := by
  have free := written.isFree own streamLive
    ((partition.passesOf stream).append budget record).finished.length
  have working := working_append_first current
  rcases WorkingFiles.getElem?_writers_append_first written.sound free record.encode with
    ⟨writer, named, writers⟩
  rw [← working] at writers
  constructor
  case live => exact written.live_append streamLive
  case sound =>
    rw [working]
    exact written.sound.append_first free
  case opened =>
    intro other present
    rw [writers other]
    rcases (mem_streams_append partition stream other record).mp present with rfl | present
    · exact ⟨writer, if_pos rfl⟩
    · split
      · exact ⟨writer, rfl⟩
      · exact written.opened present
  case names =>
    intro other otherWriter opened
    rw [writers other] at opened
    rw [mem_streams_append, passesOf_append]
    split at opened
    next same =>
      subst same
      rw [if_pos rfl, ← Option.some_inj.mp opened]
      exact ⟨.inl rfl, named⟩
    next different =>
      rw [if_neg different]
      have before := written.names opened
      exact ⟨.inr before.1, before.2⟩
  case current => exact written.current_append
  case holds => exact written.holds_append_first own streamLive current finished

/-! A record that continues a pass goes to the file that its stream has open. -/

theorem IsWritten.working_append_later (written : partition.IsWritten live)
    (present : stream ∈ partition.streams)
    (current : ((partition.passesOf stream).append budget record).current =
      (partition.passesOf stream).current ++ [record]) :
    (partition.append budget stream record).working =
      partition.working.write stream record.encode := by
  have notEmpty := List.length_pos_of_ne_nil (written.current present)
  have isLater :
      decide (((partition.passesOf stream).append budget record).current.length = 1) = false := by
    rw [current, List.length_append, List.length_singleton, decide_eq_false_iff_not]
    omega
  rw [working_append, isLater, WorkingFiles.append_later]

theorem mem_streams_append_later (present : stream ∈ partition.streams) (other : StreamId) :
    other ∈ (partition.append budget stream record).streams ↔ other ∈ partition.streams := by
  rw [mem_streams_append]
  constructor
  · rintro (rfl | otherPresent)
    · exact present
    · exact otherPresent
  · exact .inr

theorem IsWritten.holds_append_later (written : partition.IsWritten live)
    (own : StreamId.HaveOwnFiles live) (present : stream ∈ partition.streams)
    (finished : ((partition.passesOf stream).append budget record).finished =
      (partition.passesOf stream).finished)
    (current : ((partition.passesOf stream).append budget record).current =
      (partition.passesOf stream).current ++ [record])
    {other : StreamId} (otherPresent : other ∈ (partition.append budget stream record).streams)
    {pass : Nat} {records : List Record}
    (atPass : ((partition.append budget stream record).passesOf other).toList[pass]? =
      some records) :
    (partition.append budget stream record).working.WillHold
      (Path.names (other.passFile pass)) (logBytes records) := by
  rcases written.opened present with ⟨writer, opened⟩
  have named := (written.names opened).2
  rw [mem_streams_append_later present] at otherPresent
  rw [passesOf_append] at atPass
  rw [written.working_append_later present current]
  by_cases reached : stream = other ∧ pass = (partition.passesOf stream).finished.length
  · rcases reached with ⟨rfl, rfl⟩
    have before :
        (partition.passesOf stream).toList[(partition.passesOf stream).finished.length]? =
          some (partition.passesOf stream).current := by
      simp [Passes.toList]
    rw [if_pos rfl, Passes.toList, finished, current, List.getElem?_concat_length,
      Option.some_inj] at atPass
    rw [← atPass, logBytes_append, logBytes_singleton]
    exact (written.holds present before).write written.sound opened named
  · have unchanged : (partition.passesOf other).toList[pass]? = some records := by
      split at atPass
      next same =>
        subst same
        rwa [Passes.getElem?_toList_of_ne finished fun same => reached ⟨rfl, same⟩] at atPass
      next => exact atPass
    apply (written.holds otherPresent unchanged).write_other written.sound opened
    intro sameFile
    rw [named] at sameFile
    have same :=
      own.names_passFile_inj (written.live otherPresent) (written.live present) sameFile
    exact reached ⟨same.1.symm, same.2⟩

theorem IsWritten.append_later (written : partition.IsWritten live)
    (own : StreamId.HaveOwnFiles live) (present : stream ∈ partition.streams)
    (finished : ((partition.passesOf stream).append budget record).finished =
      (partition.passesOf stream).finished)
    (current : ((partition.passesOf stream).append budget record).current =
      (partition.passesOf stream).current ++ [record]) :
    (partition.append budget stream record).IsWritten live := by
  have working := written.working_append_later present current
  rcases written.opened present with ⟨writer, opened⟩
  have writers := WorkingFiles.getElem?_writers_write opened record.encode
  rw [← working] at writers
  constructor
  case live => exact written.live_append (written.live present)
  case sound =>
    rw [working]
    exact written.sound.write opened
  case opened =>
    intro other otherPresent
    rw [writers other]
    split
    · exact ⟨_, rfl⟩
    · exact written.opened ((mem_streams_append_later present other).mp otherPresent)
  case names =>
    intro other otherWriter otherOpened
    rw [writers other] at otherOpened
    rw [mem_streams_append_later present, passesOf_append]
    split at otherOpened
    next same =>
      subst same
      have adds := FileWriter.adds_putFrame (written.sound.atEnd opened) record.encode
      rw [if_pos rfl, finished, ← Option.some_inj.mp otherOpened]
      exact ⟨present, adds.names_eq.trans (written.names opened).2⟩
    next different =>
      rw [if_neg different]
      exact written.names otherOpened
  case current => exact written.current_append
  case holds => exact written.holds_append_later own present finished current

theorem IsWritten.append (written : partition.IsWritten live) (own : StreamId.HaveOwnFiles live)
    (budget : Nat) (streamLive : live stream) (record : Record) :
    (partition.append budget stream record).IsWritten live := by
  by_cases present : stream ∈ partition.streams
  · rcases (partition.passesOf stream).append_cases budget record with
      ⟨finished, current⟩ | ⟨-, finished, current⟩
    · exact written.append_later own present finished current
    · apply written.append_first own streamLive current
      intro pass records atPass
      rw [finished] at atPass
      exact ⟨present, atPass⟩
  · have nothing := passesOf_of_notMem present
    rcases (partition.passesOf stream).append_cases budget record with
      ⟨finished, current⟩ | ⟨notEmpty, -, -⟩
    · rw [nothing] at finished current
      apply written.append_first own streamLive
      · rw [nothing, current]
        rfl
      · intro pass records atPass
        rw [nothing, finished] at atPass
        simp [Passes.empty] at atPass
    · rw [nothing] at notEmpty
      exact absurd rfl notEmpty

theorem IsWritten.appendAll (written : partition.IsWritten live)
    (own : StreamId.HaveOwnFiles live) (budget : Nat) (entries : List (StreamId × Record))
    (entriesLive : ∀ entry ∈ entries, live entry.1) :
    (partition.appendAll budget entries).IsWritten live := by
  induction entries generalizing partition with
  | nil => exact written
  | cons first rest ih =>
      have firstWritten := written.append own budget (entriesLive first (by simp)) first.2
      exact ih firstWritten fun entry entryMem => entriesLive entry (by simp [entryMem])

/-- When all files are complete, those of a stream hold its records, pass by pass. -/
theorem IsWritten.passBytes_eq (written : partition.IsWritten live)
    (present : stream ∈ partition.streams) :
    partition.passBytes stream = (partition.passesOf stream).toList.map logBytes := by
  apply List.ext_getElem?
  intro pass
  rw [passBytes, List.getElem?_map, List.getElem?_map]
  by_cases reached : pass < (partition.passesOf stream).toList.length
  · have atPass := List.getElem?_eq_getElem reached
    have holds := (written.holds present atPass).read_finish written.sound
    rw [List.getElem?_range reached, atPass, Option.map_some, Option.map_some, holds]
  · rw [List.getElem?_eq_none (by simpa using reached),
      List.getElem?_eq_none (by simpa using reached)]
    rfl

theorem passBytes_appendAll_empty {entries : List (StreamId × Record)}
    (own : StreamId.HaveOwnFiles fun other => Scope.entriesOf other entries ≠ [])
    (present : stream ∈ (empty.appendAll budget entries).streams) :
    (empty.appendAll budget entries).passBytes stream =
      ((empty.appendAll budget entries).passesOf stream).toList.map logBytes := by
  have written := isWritten_empty.appendAll own budget entries
    fun entry entryMem => Scope.entriesOf_ne_nil entryMem
  exact written.passBytes_eq present

/-! ### The schema changes in order -/

theorem stamp_le_trans (first second third : SchemaChange)
    (before : decide (first.stamp ≤ second.stamp) = true)
    (after : decide (second.stamp ≤ third.stamp) = true) :
    decide (first.stamp ≤ third.stamp) = true := by
  rw [decide_eq_true_eq] at before after ⊢
  exact Int64.le_trans before after

theorem stamp_le_total (first second : SchemaChange) :
    (decide (first.stamp ≤ second.stamp) || decide (second.stamp ≤ first.stamp)) = true := by
  simpa using Int64.le_total first.stamp second.stamp

theorem sorted_schemaChanges (partition : Partition) :
    partition.schemaChanges.Pairwise fun first second => first.stamp ≤ second.stamp := by
  have sorted := List.pairwise_mergeSort stamp_le_trans stamp_le_total partition.changes
  simpa [schemaChanges] using sorted

/-- The schema changes of one time stay in the order in which they were read. -/
theorem filter_schemaChanges (partition : Partition) (stamp : Timestamp) :
    (partition.schemaChanges.filter fun change => change.stamp = stamp) =
      partition.changes.filter fun change => change.stamp = stamp := by
  have sameTime : (partition.changes.filter fun change => change.stamp = stamp).Pairwise
      fun first second => decide (first.stamp ≤ second.stamp) = true := by
    apply List.pairwise_of_forall_mem_list
    intro first firstMem second secondMem
    rw [List.mem_filter, decide_eq_true_eq] at firstMem secondMem
    simp [firstMem.2, secondMem.2]
  have kept := List.sublist_mergeSort stamp_le_trans stamp_le_total sameTime List.filter_sublist
  have perm := (List.mergeSort_perm partition.changes fun first second =>
    first.stamp ≤ second.stamp).filter fun change => change.stamp = stamp
  have sublist := kept.filter fun change => decide (change.stamp = stamp)
  rw [List.filter_filter] at sublist
  simp only [Bool.and_self] at sublist
  exact (sublist.eq_of_length perm.length_eq.symm).symm

/-! ### The projections of a log -/

/-- The records of files that are read one after the other. -/
def recordsOf (files : List LogFile) : List Record :=
  files.flatMap fun file => file.contents.records

theorem foldlM_settle (add : Partition → LogFile → Partition × Except PartitionError Unit)
    (addOne : Partition → Record → Partition) (files : List LogFile)
    (added : ∀ partition, ∀ file ∈ files,
      add partition file = (file.contents.records.foldl addOne partition, .ok ()))
    (partition : Partition) :
    files.foldlM (fun partition file => ofSelection.settle (add partition file)) partition =
      .ok ((recordsOf files).foldl addOne partition) := by
  induction files generalizing partition with
  | nil => rfl
  | cons file rest ih =>
      have later := ih fun partition other otherMem => added partition other (by simp [otherMem])
      rw [List.foldlM_cons, added partition file (by simp), recordsOf, List.flatMap_cons,
        List.foldl_append]
      exact later _

/-- Files that can be read are all read to their ends. -/
theorem ofSelection_of_readable (scope : Scope) (selection : Selection)
    (readable : ∀ file ∈ selection.history ++ selection.files, file.contents.failure = none) :
    ofSelection scope selection =
      .ok ((recordsOf selection.files).foldl (addRecord scope)
        ((recordsOf selection.history).foldl (addOldRecord scope) empty)) := by
  have history := foldlM_settle (addHistory scope) (addOldRecord scope) selection.history
    (fun partition file fileMem => by simp [addHistory, readable file (by simp [fileMem])]) empty
  have files := foldlM_settle (addFile scope) (addRecord scope) selection.files
    (fun partition file fileMem => by simp [addFile, readable file (by simp [fileMem])])
  simp only [ofSelection, history, files, bind, Except.bind]

/-- Whether a partition holds the shares of all streams in a log, and the schema changes that are to
be remembered. -/
structure IsProjection (scope : Scope) (log : List Record) (partition : Partition) : Prop where
  /-- Only streams that have got a record are there. -/
  mem_streams_iff : ∀ stream,
    stream ∈ partition.streams ↔ log.flatMap (scope.share stream) ≠ []
  /-- The files of a stream hold its share, one record after the other. -/
  passBytes : ∀ stream ∈ partition.streams, ∃ passes : List (List Record),
    partition.passBytes stream = passes.map logBytes ∧
      passes.flatten = log.flatMap (scope.share stream)
  sorted : partition.schemaChanges.Pairwise fun first second => first.stamp ≤ second.stamp
  /-- Of one time, the schema changes are those of the log, in the same order. -/
  stable : ∀ stamp, (partition.schemaChanges.filter fun change => change.stamp = stamp) =
    (log.filterMap scope.remembered?).filter fun change => change.stamp = stamp

theorem SameStreams.passBytes_eq {first second : Partition} (same : SameStreams first second)
    (stream : StreamId) : first.passBytes stream = second.passBytes stream := by
  rw [passBytes, passBytes, same.passesOf_eq, same.working]

section

variable {scope : Scope} {log : List Record} {stream : StreamId}

theorem mem_streams_foldl_addRecord :
    stream ∈ (log.foldl (addRecord scope) empty).streams ↔
      log.flatMap (scope.share stream) ≠ [] := by
  have noStream : stream ∉ empty.streams := by simp [empty]
  rw [(sameStreams_foldl_addRecord scope log empty).streams, mem_streams_appendAll,
    Scope.entriesOf_flatMap_entries]
  simp [noStream]

theorem records_foldl_addRecord :
    ((log.foldl (addRecord scope) empty).passesOf stream).records =
      log.flatMap (scope.share stream) := by
  have records := records_appendAll scope.budget (log.flatMap scope.entries) empty stream
  rw [(sameStreams_foldl_addRecord scope log empty).passesOf_eq, records,
    Scope.entriesOf_flatMap_entries, passesOf_empty]
  rfl

theorem passBytes_foldl_addRecord
    (own : StreamId.HaveOwnFiles fun stream => log.flatMap (scope.share stream) ≠ [])
    (present : stream ∈ (log.foldl (addRecord scope) empty).streams) :
    (log.foldl (addRecord scope) empty).passBytes stream =
      ((log.foldl (addRecord scope) empty).passesOf stream).toList.map logBytes := by
  have same := sameStreams_foldl_addRecord scope log empty
  simp only [← Scope.entriesOf_flatMap_entries] at own
  rw [same.streams] at present
  rw [same.passBytes_eq, same.passesOf_eq]
  exact passBytes_appendAll_empty own present

theorem isProjection_foldl_addRecord
    (own : StreamId.HaveOwnFiles fun stream => log.flatMap (scope.share stream) ≠ []) :
    (log.foldl (addRecord scope) empty).IsProjection scope log where
  mem_streams_iff _ := mem_streams_foldl_addRecord
  passBytes _ present := ⟨_, passBytes_foldl_addRecord own present, records_foldl_addRecord⟩
  sorted := sorted_schemaChanges _
  stable stamp := by
    rw [filter_schemaChanges, changes_foldl_addRecord]
    rfl

end

/-- Unless both the database with the empty name and its table with the empty name get records, a
partition of files that can be read is the projection of their records. -/
theorem isProjection_ofSelection (scope : Scope) (files : List LogFile)
    (readable : ∀ file ∈ files, file.contents.failure = none)
    (own : StreamId.HaveOwnFiles fun stream =>
      (recordsOf files).flatMap (scope.share stream) ≠ []) :
    ∃ partition, ofSelection scope ⟨files, []⟩ = .ok partition ∧
      partition.IsProjection scope (recordsOf files) := by
  have partitioned := ofSelection_of_readable scope ⟨files, []⟩ (by simpa using readable)
  exact ⟨_, partitioned, isProjection_foldl_addRecord own⟩

/-- A window without bounds and a filter that admits everything. -/
def everything (budget : Nat) : Scope := ⟨⟨0, 0⟩, ⟨[], [], [], []⟩, budget⟩

/-- A file with a change of one table, and with rows of this table and of another one. -/
def twoTables : LogFile :=
  ⟨"binlog-0000000000000000", some (logBytes
    [.schemaChange ⟨1, "truncate s.t"⟩,
      .rowBatch ⟨2, [⟨"s", "t", .insert, []⟩, ⟨"s", "u", .insert, []⟩]⟩])⟩

set_option maxRecDepth 4000 in
theorem isProjection_ofSelection_of_two_tables :
    (∀ file ∈ [twoTables], file.contents.failure = none) ∧
      (StreamId.HaveOwnFiles fun stream =>
        (recordsOf [twoTables]).flatMap ((everything 100).share stream) ≠ []) ∧
      ∃ partition, ofSelection (everything 100) ⟨[twoTables], []⟩ = .ok partition ∧
        partition.IsProjection (everything 100) (recordsOf [twoTables]) := by
  have readable : ∀ file ∈ [twoTables], file.contents.failure = none := by decide +kernel
  have own : StreamId.HaveOwnFiles fun stream =>
      (recordsOf [twoTables]).flatMap ((everything 100).share stream) ≠ [] := by
    intro both
    exact both.1 (by decide +kernel)
  exact ⟨readable, own, isProjection_ofSelection (everything 100) [twoTables] readable own⟩

/-- A file with the database whose name is empty, and a row of its table whose name is empty. -/
def emptyNames : LogFile :=
  ⟨"binlog-0000000000000000", some (logBytes
    [.schemaChange ⟨1, "create database ``"⟩, .rowBatch ⟨2, [⟨"", "", .insert, []⟩]⟩])⟩

set_option maxRecDepth 4000 in
/-- The file of the database holds the row of the table. -/
theorem not_isProjection_of_empty_names :
    (∀ file ∈ [emptyNames], file.contents.failure = none) ∧
      ¬∃ partition, ofSelection (everything 100) ⟨[emptyNames], []⟩ = .ok partition ∧
        partition.IsProjection (everything 100) (recordsOf [emptyNames]) := by
  have readable : ∀ file ∈ [emptyNames], file.contents.failure = none := by decide +kernel
  refine ⟨readable, ?_⟩
  rintro ⟨partition, partitioned, projection⟩
  have actual :=
    ofSelection_of_readable (everything 100) ⟨[emptyNames], []⟩ (by simpa using readable)
  rw [partitioned, Except.ok.injEq] at actual
  have bytesOfFile : partition.passBytes ⟨"", none⟩ =
      [logBytes [.rowBatch ⟨2, [⟨"", "", .insert, []⟩]⟩]] := by
    rw [actual]
    decide +kernel
  have share : (recordsOf [emptyNames]).flatMap ((everything 100).share ⟨"", none⟩) =
      [.schemaChange ⟨1, "create database ``"⟩] := by
    decide +kernel
  have present := (projection.mem_streams_iff ⟨"", none⟩).mpr (by simp [share])
  rcases projection.passBytes ⟨"", none⟩ present with ⟨passes, bytes, records⟩
  rw [bytesOfFile, eq_comm, List.map_eq_singleton_iff] at bytes
  rcases bytes with ⟨pass, rfl, bytes⟩
  rw [share, List.flatten_singleton] at records
  rw [records] at bytes
  exact absurd bytes (by decide +kernel)

end Partition

end RowLog
