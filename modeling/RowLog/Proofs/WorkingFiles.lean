import RowLog.Stream.WorkingFiles

/-!
# What working files hold

A writer stands for the bytes that its file holds once the writer is closed: those of the file and
then those that are being collected. Taking bytes puts them after what a writer stands for and
leaves all other files as they are. So a file whose only writer is that of one stream holds what
this stream has put there, whatever other streams write in between. Main statement:
`WorkingFiles.WillHold.read_finish`.
-/

namespace RowLog

theorem overwrite_length (file bytes : List UInt8) :
    overwrite file file.length bytes = file ++ bytes := by
  cases bytes with
  | nil => simp [overwrite]
  | cons byte rest => simp [overwrite]

namespace FileWriter

variable {writer : FileWriter} {files : FileContents}

/-- What the file of a writer holds after it is closed. -/
def held (writer : FileWriter) (files : FileContents) : List UInt8 :=
  files.getD writer.names [] ++ writer.collected

/-- Whether the file of a writer ends where the writer is to go on. -/
def IsAtEnd (writer : FileWriter) (files : FileContents) : Prop :=
  writer.place = (files.getD writer.names []).length

/-- What becomes of a writer and the files when it takes some bytes. -/
structure Adds (writer : FileWriter) (files : FileContents) (bytes : List UInt8)
    (next : FileWriter × FileContents) : Prop where
  names_eq : next.1.names = writer.names
  isAtEnd : next.1.IsAtEnd next.2
  held_eq : next.1.held next.2 = writer.held files ++ bytes
  others : ∀ names ≠ writer.names, next.2.getD names [] = files.getD names []

theorem Adds.refl (atEnd : writer.IsAtEnd files) : writer.Adds files [] (writer, files) where
  names_eq := rfl
  isAtEnd := atEnd
  held_eq := (List.append_nil _).symm
  others _ _ := rfl

theorem Adds.trans {first second : List UInt8} {middle final : FileWriter × FileContents}
    (before : writer.Adds files first middle) (after : middle.1.Adds middle.2 second final) :
    writer.Adds files (first ++ second) final where
  names_eq := after.names_eq.trans before.names_eq
  isAtEnd := after.isAtEnd
  held_eq := by rw [after.held_eq, before.held_eq, List.append_assoc]
  others names different := by
    rw [after.others names (before.names_eq ▸ different), before.others names different]

theorem adds_hand (atEnd : writer.IsAtEnd files) (bytes : List UInt8) :
    (writer.hand files bytes).1.IsAtEnd (writer.hand files bytes).2 ∧
      (writer.hand files bytes).2.getD writer.names [] = files.getD writer.names [] ++ bytes ∧
      ∀ names ≠ writer.names,
        (writer.hand files bytes).2.getD names [] = files.getD names [] := by
  rw [IsAtEnd] at atEnd
  have written : (writer.hand files bytes).2.getD writer.names [] =
      files.getD writer.names [] ++ bytes := by
    simp [hand, atEnd, overwrite_length]
  refine ⟨?_, written, fun names different => ?_⟩
  · change writer.place + bytes.length = ((writer.hand files bytes).2.getD writer.names []).length
    rw [written, List.length_append, atEnd]
  · simp [hand, Std.ExtTreeMap.getD_insert, different.symm]

theorem adds_flush (atEnd : writer.IsAtEnd files) : writer.Adds files [] (writer.flush files) := by
  rcases adds_hand atEnd writer.collected with ⟨isAtEnd, written, others⟩
  refine ⟨rfl, isAtEnd, ?_, others⟩
  simpa [held, flush, hand] using written

theorem adds_makeRoom (atEnd : writer.IsAtEnd files) (size : Nat) :
    writer.Adds files [] (writer.makeRoom files size) := by
  simp only [makeRoom]
  split
  · exact adds_flush atEnd
  · exact .refl atEnd

theorem collected_makeRoom (writer : FileWriter) (files : FileContents) {size : Nat}
    (large : blockSize ≤ size) :
    (writer.makeRoom files size).1.collected = [] := by
  simp only [makeRoom]
  split
  next => rfl
  next fits =>
    apply List.eq_nil_of_length_eq_zero
    change writer.collected.length = 0
    omega

theorem adds_put (atEnd : writer.IsAtEnd files) (bytes : List UInt8) :
    writer.Adds files bytes (writer.put files bytes) := by
  have room := adds_makeRoom atEnd bytes.length
  have nothing (large : blockSize ≤ bytes.length) := collected_makeRoom writer files large
  simp only [put]
  generalize writer.makeRoom files bytes.length = next at room nothing
  rcases next with ⟨next, nextFiles⟩
  apply room.trans
  split
  next large =>
    rcases adds_hand room.isAtEnd bytes with ⟨isAtEnd, written, others⟩
    refine ⟨rfl, isAtEnd, ?_, others⟩
    change (next.hand nextFiles bytes).2.getD next.names [] ++ next.collected = _
    rw [written, held, nothing large, List.append_nil, List.append_nil]
  next =>
    refine ⟨rfl, room.isAtEnd, ?_, fun _ _ => rfl⟩
    simp [held]

theorem adds_putFrame (atEnd : writer.IsAtEnd files) (payload : List UInt8) :
    writer.Adds files (frame payload) (writer.putFrame files payload) := by
  have header := adds_put atEnd ((frame payload).take frameHeaderSize)
  have rest := adds_put header.isAtEnd ((frame payload).drop frameHeaderSize)
  have both := header.trans rest
  rwa [List.take_append_drop] at both

end FileWriter

namespace WorkingFiles

variable {working : WorkingFiles} {stream : StreamId} {writer : FileWriter}

/-- Whether no two writers have one file, and all go on at the ends of their files. -/
structure IsSound (working : WorkingFiles) : Prop where
  own : ∀ {first second : StreamId} {writer other : FileWriter},
    working.writers[first]? = some writer → working.writers[second]? = some other →
      writer.names = other.names → first = second
  atEnd : ∀ {stream : StreamId} {writer : FileWriter},
    working.writers[stream]? = some writer → writer.IsAtEnd working.files

/-- Whether a file is to hold some bytes after all writers are closed. -/
structure WillHold (working : WorkingFiles) (names : List String) (bytes : List UInt8) : Prop where
  of_writer : ∀ {stream : StreamId} {writer : FileWriter},
    working.writers[stream]? = some writer → writer.names = names →
      writer.held working.files = bytes
  of_none : (∀ (stream : StreamId) (writer : FileWriter),
      working.writers[stream]? = some writer → writer.names ≠ names) →
    working.files.getD names [] = bytes

/-- A writer that takes bytes leaves all that belongs to another one as it is. -/
theorem IsSound.other_writer (sound : working.IsSound)
    (opened : working.writers[stream]? = some writer) {bytes : List UInt8}
    {next : FileWriter × FileContents} (adds : writer.Adds working.files bytes next)
    {otherStream : StreamId} {other : FileWriter} (different : stream ≠ otherStream)
    (otherOpened : working.writers[otherStream]? = some other) :
    other.names ≠ writer.names ∧ other.IsAtEnd next.2 ∧
      other.held next.2 = other.held working.files := by
  have apart : other.names ≠ writer.names :=
    fun same => different (sound.own opened otherOpened same.symm)
  have kept := adds.others other.names apart
  refine ⟨apart, ?_, by rw [FileWriter.held, FileWriter.held, kept]⟩
  have atEnd := sound.atEnd otherOpened
  rw [FileWriter.IsAtEnd] at atEnd ⊢
  rw [kept, atEnd]

section Close

theorem getElem?_writers_close (working : WorkingFiles) (stream other : StreamId) :
    (working.close stream).writers[other]? =
      if stream = other then none else working.writers[other]? := by
  simp only [close]
  split
  next => simp [Std.ExtTreeMap.getElem?_erase]
  next closed =>
    split
    next same => rw [← same, closed]
    next => rfl

theorem files_close (opened : working.writers[stream]? = some writer) :
    (working.close stream).files = (writer.flush working.files).2 := by
  simp [close, opened]

theorem close_of_none (closed : working.writers[stream]? = none) :
    working.close stream = working := by
  simp [close, closed]

theorem IsSound.close (sound : working.IsSound) (stream : StreamId) :
    (working.close stream).IsSound := by
  cases opened : working.writers[stream]? with
  | none => rwa [close_of_none opened]
  | some writer =>
      have adds := FileWriter.adds_flush (sound.atEnd opened)
      constructor
      · intro first second writer other firstOpened secondOpened same
        rw [getElem?_writers_close, Option.ite_none_left_eq_some] at firstOpened secondOpened
        exact sound.own firstOpened.2 secondOpened.2 same
      · intro other otherWriter otherOpened
        rw [getElem?_writers_close, Option.ite_none_left_eq_some] at otherOpened
        rw [files_close opened]
        exact (sound.other_writer opened adds otherOpened.1 otherOpened.2).2.1

theorem WillHold.close {names : List String} {bytes : List UInt8}
    (holds : working.WillHold names bytes) (sound : working.IsSound) (stream : StreamId) :
    (working.close stream).WillHold names bytes := by
  cases opened : working.writers[stream]? with
  | none => rwa [close_of_none opened]
  | some writer =>
      have adds := FileWriter.adds_flush (sound.atEnd opened)
      constructor
      · intro other otherWriter otherOpened same
        rw [getElem?_writers_close, Option.ite_none_left_eq_some] at otherOpened
        rw [files_close opened, (sound.other_writer opened adds otherOpened.1 otherOpened.2).2.2]
        exact holds.of_writer otherOpened.2 same
      · intro noOther
        rw [files_close opened]
        by_cases mine : writer.names = names
        · have complete := adds.held_eq
          rw [holds.of_writer opened mine, List.append_nil, FileWriter.held, adds.names_eq, mine]
            at complete
          simpa [FileWriter.flush] using complete
        · rw [adds.others names (Ne.symm mine)]
          apply holds.of_none
          intro other otherWriter otherOpened
          by_cases same : stream = other
          · rw [← same, opened, Option.some_inj] at otherOpened
            rwa [← otherOpened]
          · apply noOther other otherWriter
            rw [getElem?_writers_close, if_neg same]
            exact otherOpened

theorem getElem?_writers_foldl_close (streams : List StreamId) (working : WorkingFiles)
    (stream : StreamId) :
    (streams.foldl WorkingFiles.close working).writers[stream]? =
      if stream ∈ streams then none else working.writers[stream]? := by
  induction streams generalizing working with
  | nil => simp
  | cons first rest ih =>
      rw [List.foldl_cons, ih, getElem?_writers_close]
      by_cases inRest : stream ∈ rest
      · simp [inRest]
      · simp [inRest, eq_comm]

theorem WillHold.foldl_close {names : List String} {bytes : List UInt8} (streams : List StreamId)
    (holds : working.WillHold names bytes) (sound : working.IsSound) :
    (streams.foldl WorkingFiles.close working).WillHold names bytes := by
  induction streams generalizing working with
  | nil => exact holds
  | cons first rest ih => exact ih (holds.close sound first) (sound.close first)

/-- What a file is to hold is what it holds when all writers are closed. -/
theorem WillHold.read_finish {path : String} {bytes : List UInt8}
    (holds : working.WillHold (Path.names path) bytes) (sound : working.IsSound) :
    working.finish.read path = bytes := by
  apply (holds.foldl_close working.writers.keys sound).of_none
  intro stream writer opened
  rw [getElem?_writers_foldl_close, Option.ite_none_left_eq_some] at opened
  have present : stream ∈ working.writers := by
    rw [← Std.ExtTreeMap.isSome_getElem?_iff_mem, opened.2]
    rfl
  exact absurd (Std.ExtTreeMap.mem_keys.mpr present) opened.1

end Close

section Write

variable {payload : List UInt8}

theorem getElem?_writers_write (opened : working.writers[stream]? = some writer)
    (payload : List UInt8) (other : StreamId) :
    (working.write stream payload).writers[other]? =
      if stream = other then some (writer.putFrame working.files payload).1
      else working.writers[other]? := by
  simp [write, opened, Std.ExtTreeMap.getElem?_insert]

theorem files_write (opened : working.writers[stream]? = some writer) :
    (working.write stream payload).files = (writer.putFrame working.files payload).2 := by
  simp [write, opened]

theorem IsSound.write (sound : working.IsSound) (opened : working.writers[stream]? = some writer) :
    (working.write stream payload).IsSound := by
  have adds := FileWriter.adds_putFrame (sound.atEnd opened) payload
  constructor
  · intro first second firstWriter secondWriter firstOpened secondOpened same
    rw [getElem?_writers_write opened] at firstOpened secondOpened
    split at firstOpened <;> split at secondOpened
    next firstMine secondMine => exact firstMine.symm.trans secondMine
    next firstMine secondOther =>
      rw [← Option.some_inj.mp firstOpened, adds.names_eq] at same
      exact absurd same.symm (sound.other_writer opened adds secondOther secondOpened).1
    next firstOther secondMine =>
      rw [← Option.some_inj.mp secondOpened, adds.names_eq] at same
      exact absurd same (sound.other_writer opened adds firstOther firstOpened).1
    next => exact sound.own firstOpened secondOpened same
  · intro other otherWriter otherOpened
    rw [files_write opened]
    rw [getElem?_writers_write opened] at otherOpened
    split at otherOpened
    next =>
      rw [← Option.some_inj.mp otherOpened]
      exact adds.isAtEnd
    next different => exact (sound.other_writer opened adds different otherOpened).2.1

theorem WillHold.write {names : List String} {bytes : List UInt8}
    (holds : working.WillHold names bytes) (sound : working.IsSound)
    (opened : working.writers[stream]? = some writer) (named : writer.names = names) :
    (working.write stream payload).WillHold names (bytes ++ frame payload) := by
  subst named
  have adds := FileWriter.adds_putFrame (sound.atEnd opened) payload
  constructor
  · intro other otherWriter otherOpened same
    rw [getElem?_writers_write opened] at otherOpened
    split at otherOpened
    next =>
      rw [← Option.some_inj.mp otherOpened, files_write opened, adds.held_eq,
        holds.of_writer opened rfl]
    next different => exact absurd same (sound.other_writer opened adds different otherOpened).1
  · intro noWriter
    have mine := noWriter stream (writer.putFrame working.files payload).1
      (by rw [getElem?_writers_write opened, if_pos rfl])
    exact absurd adds.names_eq mine

theorem WillHold.write_other {names : List String} {bytes : List UInt8}
    (holds : working.WillHold names bytes) (sound : working.IsSound)
    (opened : working.writers[stream]? = some writer) (different : names ≠ writer.names) :
    (working.write stream payload).WillHold names bytes := by
  have adds := FileWriter.adds_putFrame (sound.atEnd opened) payload
  constructor
  · intro other otherWriter otherOpened same
    rw [getElem?_writers_write opened] at otherOpened
    split at otherOpened
    next =>
      rw [← Option.some_inj.mp otherOpened, adds.names_eq] at same
      exact absurd same.symm different
    next otherStream =>
      rw [files_write opened, (sound.other_writer opened adds otherStream otherOpened).2.2]
      exact holds.of_writer otherOpened same
  · intro noWriter
    rw [files_write opened, adds.others names different]
    apply holds.of_none
    intro other otherWriter otherOpened
    by_cases same : stream = other
    · rw [← same, opened, Option.some_inj] at otherOpened
      rw [← otherOpened]
      exact different.symm
    · apply noWriter other otherWriter
      rw [getElem?_writers_write opened, if_neg same]
      exact otherOpened

end Write

section Create

variable {path : String}

theorem getElem?_writers_create (working : WorkingFiles) (stream other : StreamId) :
    (working.create stream path).writers[other]? =
      if stream = other then some ⟨Path.names path, 0, []⟩ else working.writers[other]? := by
  simp [create, Std.ExtTreeMap.getElem?_insert]

theorem getD_files_create (working : WorkingFiles) (stream : StreamId) (names : List String) :
    (working.create stream path).files.getD names [] =
      if Path.names path = names then [] else working.files.getD names [] := by
  simp [create, Std.ExtTreeMap.getD_insert]

/-- Whether no stream other than a given one has a writer of a file. -/
def IsFree (working : WorkingFiles) (stream : StreamId) (path : String) : Prop :=
  ∀ (other : StreamId) (writer : FileWriter),
    working.writers[other]? = some writer → stream ≠ other → writer.names ≠ Path.names path

theorem IsSound.create (sound : working.IsSound) (free : working.IsFree stream path) :
    (working.create stream path).IsSound := by
  constructor
  · intro first second firstWriter secondWriter firstOpened secondOpened same
    rw [getElem?_writers_create] at firstOpened secondOpened
    split at firstOpened <;> split at secondOpened
    next firstMine secondMine => exact firstMine.symm.trans secondMine
    next secondOther =>
      rw [← Option.some_inj.mp firstOpened] at same
      exact absurd same.symm (free second secondWriter secondOpened secondOther)
    next firstOther _ =>
      rw [← Option.some_inj.mp secondOpened] at same
      exact absurd same (free first firstWriter firstOpened firstOther)
    next => exact sound.own firstOpened secondOpened same
  · intro other writer opened
    rw [getElem?_writers_create] at opened
    rw [FileWriter.IsAtEnd, getD_files_create]
    split at opened
    next =>
      rw [← Option.some_inj.mp opened, if_pos rfl]
      rfl
    next different =>
      rw [if_neg (free other writer opened different).symm]
      exact sound.atEnd opened

theorem willHold_create (free : working.IsFree stream path) :
    (working.create stream path).WillHold (Path.names path) [] := by
  constructor
  · intro other writer opened same
    rw [getElem?_writers_create] at opened
    split at opened
    next =>
      rw [← Option.some_inj.mp opened, FileWriter.held, getD_files_create, if_pos rfl]
      rfl
    next different => exact absurd same (free other writer opened different)
  · intro noWriter
    have mine := noWriter stream _ (by rw [getElem?_writers_create, if_pos rfl])
    exact absurd rfl mine

theorem WillHold.create_other {names : List String} {bytes : List UInt8}
    (holds : working.WillHold names bytes) (closed : working.writers[stream]? = none)
    (different : names ≠ Path.names path) :
    (working.create stream path).WillHold names bytes := by
  constructor
  · intro other writer opened same
    rw [getElem?_writers_create] at opened
    split at opened
    next =>
      rw [← Option.some_inj.mp opened] at same
      exact absurd same.symm different
    next =>
      rw [FileWriter.held, getD_files_create, same, if_neg different.symm, ← same]
      exact holds.of_writer opened same
  · intro noWriter
    rw [getD_files_create, if_neg different.symm]
    apply holds.of_none
    intro other writer opened
    apply noWriter other writer
    rw [getElem?_writers_create, if_neg]
    · exact opened
    · intro same
      rw [← same, closed] at opened
      contradiction

end Create

end WorkingFiles

end RowLog
