import RowLog.Stream.Basic
import Mathlib.Data.List.Basic

/-!
# The files of streams

Every stream has a directory of its own for its working files, and there one file for each pass. The
one exception are the database whose name is empty and the table of that database whose name is
empty too: the names of their directories lead nowhere, so both keep their files directly among the
directories of the others. Main statement: `StreamId.names_passFile_inj`.
-/

namespace RowLog

/-! ### Names that are safe as the names of files -/

theorem toNat_ofNat_toNat (byte : UInt8) : (Char.ofNat byte.toNat).toNat = byte.toNat := by
  have small := byte.toNat_lt
  have valid : byte.toNat.isValidChar := Or.inl (by omega)
  rw [Char.ofNat, dif_pos valid]
  rfl

theorem capitalDigit_inj :
    ∀ first < 16, ∀ second < 16, capitalDigit first = capitalDigit second → first = second := by
  decide

theorem capitalDigit_ne : ∀ value < 16, capitalDigit value ≠ '.' ∧ capitalDigit value ≠ '/' := by
  decide

theorem isSafeByte_of_ofNat_eq {byte : UInt8} {character : Char}
    (same : Char.ofNat byte.toNat = character) : byte.toNat = character.toNat := by
  rw [← same, toNat_ofNat_toNat]

/-- Where the byte of a character is not safe, no safe byte stands for that character. -/
theorem ofNat_ne_of_isSafeByte {byte : UInt8} (safe : isSafeByte byte = true) (character : Char)
    (notSafe : isSafeByte (UInt8.ofNat character.toNat) = false) :
    Char.ofNat byte.toNat ≠ character := by
  intro same
  have codes := isSafeByte_of_ofNat_eq same
  rw [← codes, UInt8.ofNat_toNat, safe] at notSafe
  contradiction

theorem escapeByte_append_inj {first second : UInt8} {rest other : List Char}
    (same : escapeByte first ++ rest = escapeByte second ++ other) :
    first = second ∧ rest = other := by
  have firstSmall := first.toNat_lt
  have secondSmall := second.toNat_lt
  simp only [escapeByte] at same
  split at same
  next firstSafe =>
    split at same
    next secondSafe =>
      simp only [List.cons_append, List.nil_append, List.cons.injEq] at same
      have codes := isSafeByte_of_ofNat_eq same.1
      rw [toNat_ofNat_toNat] at codes
      exact ⟨UInt8.toNat_inj.mp codes, same.2⟩
    next =>
      simp only [List.cons_append, List.nil_append, List.cons.injEq] at same
      exact absurd same.1 (ofNat_ne_of_isSafeByte firstSafe '%' (by decide))
  next =>
    split at same
    next secondSafe =>
      simp only [List.cons_append, List.nil_append, List.cons.injEq] at same
      exact absurd same.1.symm (ofNat_ne_of_isSafeByte secondSafe '%' (by decide))
    next =>
      simp only [List.cons_append, List.nil_append, List.cons.injEq, true_and] at same
      have high := capitalDigit_inj _ (by omega) _ (by omega) same.1
      have low := capitalDigit_inj _ (by omega) _ (by omega) same.2.1
      exact ⟨UInt8.toNat_inj.mp (by omega), same.2.2⟩

theorem escapeByte_ne_nil (byte : UInt8) : escapeByte byte ≠ [] := by
  simp only [escapeByte]
  split <;> simp

theorem not_mem_escapeByte (byte : UInt8) : '.' ∉ escapeByte byte ∧ '/' ∉ escapeByte byte := by
  have small := byte.toNat_lt
  simp only [escapeByte]
  split
  next safe =>
    have noDot := ofNat_ne_of_isSafeByte safe '.' (by decide)
    have noSlash := ofNat_ne_of_isSafeByte safe '/' (by decide)
    exact ⟨by simpa using noDot.symm, by simpa using noSlash.symm⟩
  next =>
    have high := capitalDigit_ne (byte.toNat / 16) (by omega)
    have low := capitalDigit_ne (byte.toNat % 16) (by omega)
    simp [high.1.symm, high.2.symm, low.1.symm, low.2.symm]

theorem flatMap_escapeByte_inj {first second : List UInt8}
    (same : first.flatMap escapeByte = second.flatMap escapeByte) : first = second := by
  induction first generalizing second with
  | nil =>
      cases second with
      | nil => rfl
      | cons byte rest => simp [escapeByte_ne_nil] at same
  | cons byte rest ih =>
      cases second with
      | nil => simp [escapeByte_ne_nil] at same
      | cons other others =>
          simp only [List.flatMap_cons] at same
          rcases escapeByte_append_inj same with ⟨rfl, restSame⟩
          rw [ih restSame]

theorem toList_escapeName (name : String) :
    (escapeName name).toList = (Utf8.encode name).flatMap escapeByte := by
  simp [escapeName]

theorem escapeName_injective {first second : String} (same : escapeName first = escapeName second) :
    first = second := by
  have lists := congrArg String.toList same
  rw [toList_escapeName, toList_escapeName] at lists
  exact Utf8.encode_injective (flatMap_escapeByte_inj lists)

@[simp]
theorem escapeName_empty : escapeName "" = "" := rfl

theorem not_mem_escapeName (name : String) :
    '.' ∉ (escapeName name).toList ∧ '/' ∉ (escapeName name).toList := by
  rw [toList_escapeName]
  constructor
  · simp [List.mem_flatMap, not_mem_escapeByte]
  · simp [List.mem_flatMap, not_mem_escapeByte]

/-! ### The names of passes -/

theorem paddedNumber_injective {width first second : Nat}
    (same : paddedNumber width first = paddedNumber width second) : first = second := by
  have value (number : Nat) :
      Nat.ofDigitChars 10 (paddedNumber width number).toList 0 = number := by
    simp [paddedNumber, List.leftpad, Nat.ofDigitChars_append]
  rw [← value first, same, value]

theorem passFileName_injective {first second : Nat}
    (same : passFileName first = passFileName second) : first = second := by
  have lists := congrArg String.toList same
  simp only [passFileName, String.toList_append, List.append_assoc, List.append_cancel_left_eq,
    List.append_cancel_right_eq] at lists
  exact paddedNumber_injective (String.toList_injective lists)

theorem slash_not_mem_passFileName (number : Nat) : '/' ∉ (passFileName number).toList := by
  have digits : '/' ∉ Nat.toDigits 10 number := by
    intro mem
    have digit := Nat.isDigit_of_mem_toDigits (by decide) (by decide) mem
    exact absurd digit (by decide)
  simp [passFileName, paddedNumber, List.leftpad, digits]

/-! ### Paths -/

namespace Path

theorem names_of_name {path : String} (oneName : '/' ∉ path.toList)
    (notEmpty : path ≠ "") (notHere : path ≠ ".") (notBack : path ≠ "..") :
    names path = [path] := by
  have characters : path.toList ≠ [] ∧ path.toList ≠ ['.'] ∧ path.toList ≠ ['.', '.'] := by
    refine ⟨fun same => notEmpty ?_, fun same => notHere ?_, fun same => notBack ?_⟩
    all_goals exact String.toList_injective (by simpa using same)
  simp [names, components, List.splitOn_eq_singleton oneName, follow, characters]

theorem components_of_name {path : List Char} (oneName : '/' ∉ path) : components path = [path] :=
  List.splitOn_eq_singleton oneName

theorem follow_append {name : List Char} (notBack : name ≠ ['.', '.']) (directory : List String) :
    follow directory name = follow [] name ++ directory := by
  by_cases here : name = [] ∨ name = ['.']
  · simp [follow, here]
  · simp [follow, here, notBack]

theorem names_slash (directory : String) {name : String} (nameOnly : '/' ∉ name.toList)
    (notBack : name ≠ "..") : names (directory ++ "/" ++ name) = names directory ++ names name := by
  have notUp : name.toList ≠ ['.', '.'] := by
    intro same
    exact notBack (String.toList_injective (by simpa using same))
  have parts : components (directory ++ "/" ++ name).toList =
      components directory.toList ++ [name.toList] := by
    have split := List.splitOn_append_cons_self (a := '/') directory.toList name.toList
    rw [List.splitOn_eq_singleton nameOnly] at split
    simpa [components] using split
  rw [names, names, names, parts, components_of_name nameOnly, List.foldl_append]
  simp only [List.foldl_cons, List.foldl_nil]
  rw [follow_append notUp, List.reverse_append]

/-- To a directory and a name below it lead the names of the directory and then this name. -/
theorem names_join (directory : String) {name : String} (nameOnly : '/' ∉ name.toList)
    (notBack : name ≠ "..") : names (join directory name) = names directory ++ names name := by
  have relative : isAbsolute name = false := by
    rw [isAbsolute, beq_eq_false_iff_ne]
    exact fun first => nameOnly (List.mem_of_head? first)
  simp only [join, relative, Bool.false_or, String.isEmpty_iff]
  split
  next empty =>
    rw [empty]
    rfl
  next =>
    split
    next endsInSlash =>
      rcases List.getLast?_eq_some_iff.mp (beq_iff_eq.mp endsInSlash) with ⟨before, characters⟩
      have directoryEq : directory = String.ofList before ++ "/" ++ "" := by
        apply String.toList_injective
        simp [characters]
      have withName : directory ++ name = String.ofList before ++ "/" ++ name := by
        simp [directoryEq]
      rw [withName, names_slash _ nameOnly notBack, directoryEq,
        names_slash _ (by simp) (by decide), show names "" = [] from rfl, List.append_nil]
    next => exact names_slash directory nameOnly notBack

end Path

/-! ### The directories of streams -/

namespace StreamId

/-- The names along the path to the working files of a stream. -/
def directory (stream : StreamId) : List String :=
  Path.names stream.workDirName

theorem toList_workDirName_table (schema table : String) :
    (workDirName ⟨schema, some table⟩).toList =
      (escapeName schema).toList ++ '.' :: (escapeName table).toList := by
  simp [workDirName]

theorem toList_workDirName_database (schema : String) :
    (workDirName ⟨schema, none⟩).toList = (escapeName schema).toList := rfl

theorem dot_mem_workDirName_iff {stream : StreamId} :
    '.' ∈ stream.workDirName.toList ↔ stream.table.isSome := by
  rcases stream with ⟨schema, _ | table⟩
  · simp [toList_workDirName_database, not_mem_escapeName]
  · simp [toList_workDirName_table]

theorem workDirName_injective {first second : StreamId}
    (same : first.workDirName = second.workDirName) : first = second := by
  have dots : first.table.isSome = second.table.isSome := by
    rw [Bool.eq_iff_iff, ← dot_mem_workDirName_iff, ← dot_mem_workDirName_iff, same]
  have lists := congrArg String.toList same
  rcases first with ⟨schema, _ | table⟩ <;> rcases second with ⟨otherSchema, _ | otherTable⟩
  · simp only [workDirName] at same
    rw [escapeName_injective same]
  · simp at dots
  · simp at dots
  · rw [toList_workDirName_table, toList_workDirName_table] at lists
    have parts := (List.append_cons_inj_of_notMem (not_mem_escapeName schema).1
      (not_mem_escapeName table).1).mp lists
    have schemas := escapeName_injective (String.toList_injective parts.1)
    have tables := escapeName_injective (String.toList_injective parts.2.2)
    rw [schemas, tables]

theorem slash_not_mem_workDirName (stream : StreamId) : '/' ∉ stream.workDirName.toList := by
  rcases stream with ⟨schema, _ | table⟩
  · simp [toList_workDirName_database, not_mem_escapeName]
  · simp [toList_workDirName_table, not_mem_escapeName]

theorem workDirName_ne_back (stream : StreamId) : stream.workDirName ≠ ".." := by
  intro same
  have lists := congrArg String.toList same
  rcases stream with ⟨schema, _ | table⟩
  · have noDot := (not_mem_escapeName schema).1
    rw [toList_workDirName_database] at lists
    simp [lists] at noDot
  · rw [toList_workDirName_table] at lists
    have dots : (escapeName schema).toList ++ '.' :: (escapeName table).toList =
        [] ++ '.' :: ['.'] :=
      lists
    have parts := (List.append_cons_inj_of_notMem (not_mem_escapeName schema).1
      (not_mem_escapeName table).1).mp dots
    have noDot := (not_mem_escapeName table).1
    simp [parts.2.2] at noDot

/-- The directory of a stream has a name, unless the name is empty or leads nowhere. -/
theorem directory_eq (stream : StreamId) :
    stream.directory = [stream.workDirName] ∨
      stream.directory = [] ∧ (stream = ⟨"", none⟩ ∨ stream = ⟨"", some ""⟩) := by
  by_cases empty : stream.workDirName = ""
  · right
    refine ⟨by rw [directory, empty]; rfl, .inl (workDirName_injective (empty.trans rfl))⟩
  by_cases here : stream.workDirName = "."
  · right
    refine ⟨by rw [directory, here]; rfl, .inr (workDirName_injective (here.trans rfl))⟩
  · left
    exact Path.names_of_name stream.slash_not_mem_workDirName empty here stream.workDirName_ne_back

theorem names_passFileName (number : Nat) :
    passFileName number ≠ ".." ∧ Path.names (passFileName number) = [passFileName number] := by
  have startsWith : ∃ rest, (passFileName number).toList = 'p' :: rest := by
    simp [passFileName]
  rcases startsWith with ⟨rest, startsWith⟩
  have differs {other : String} (start : other.toList.head? ≠ some 'p') :
      passFileName number ≠ other := by
    intro same
    rw [← same, startsWith] at start
    simp at start
  exact ⟨differs (by decide), Path.names_of_name (slash_not_mem_passFileName number)
    (differs (by decide)) (differs (by decide)) (differs (by decide))⟩

theorem names_passFile (stream : StreamId) (number : Nat) :
    Path.names (stream.passFile number) = stream.directory ++ [passFileName number] := by
  rcases names_passFileName number with ⟨notBack, passNames⟩
  rw [passFile, Path.names_join _ (slash_not_mem_passFileName number) notBack, passNames, directory]

/-- Whether two streams are a database whose name is empty and its table whose name is empty, in
either order. -/
def ShareDirectory (first second : StreamId) : Prop :=
  (first = ⟨"", none⟩ ∧ second = ⟨"", some ""⟩) ∨ (first = ⟨"", some ""⟩ ∧ second = ⟨"", none⟩)

theorem directory_eq_iff {first second : StreamId} :
    first.directory = second.directory ↔ first = second ∨ first.ShareDirectory second := by
  constructor
  · intro same
    rcases first.directory_eq with firstOwn | ⟨firstNowhere, firstCase⟩ <;>
      rcases second.directory_eq with secondOwn | ⟨secondNowhere, secondCase⟩
    · rw [firstOwn, secondOwn] at same
      exact .inl (workDirName_injective (List.singleton_inj.mp same))
    · simp [firstOwn, secondNowhere] at same
    · simp [firstNowhere, secondOwn] at same
    · rcases firstCase with rfl | rfl <;> rcases secondCase with rfl | rfl
      · exact .inl rfl
      · exact .inr (.inl ⟨rfl, rfl⟩)
      · exact .inr (.inr ⟨rfl, rfl⟩)
      · exact .inl rfl
  · rintro (rfl | ⟨rfl, rfl⟩ | ⟨rfl, rfl⟩)
    · rfl
    · rfl
    · rfl

theorem directory_and_number_eq {first second : StreamId} {number other : Nat}
    (same : Path.names (first.passFile number) = Path.names (second.passFile other)) :
    first.directory = second.directory ∧ number = other := by
  rw [names_passFile, names_passFile] at same
  have parts := List.append_inj' same rfl
  exact ⟨parts.1, passFileName_injective (List.singleton_inj.mp parts.2)⟩

/-- Whether every one of some streams has a directory that none of the others has. -/
def HaveOwnFiles (streams : StreamId → Prop) : Prop :=
  ¬(streams ⟨"", none⟩ ∧ streams ⟨"", some ""⟩)

/-- The files of streams that have directories of their own are different for different streams and
for different passes. -/
theorem HaveOwnFiles.names_passFile_inj {streams : StreamId → Prop} (own : HaveOwnFiles streams)
    {first second : StreamId} (firstIn : streams first) (secondIn : streams second)
    {number other : Nat}
    (same : Path.names (first.passFile number) = Path.names (second.passFile other)) :
    first = second ∧ number = other := by
  rcases directory_and_number_eq same with ⟨directories, numbers⟩
  refine ⟨?_, numbers⟩
  rcases directory_eq_iff.mp directories with streamsEq | ⟨rfl, rfl⟩ | ⟨rfl, rfl⟩
  · exact streamsEq
  · exact absurd ⟨firstIn, secondIn⟩ own
  · exact absurd ⟨secondIn, firstIn⟩ own

theorem workDirName_slash_inj {first second : StreamId} {name other : String}
    (nameOnly : '/' ∉ name.toList)
    (same : first.workDirName ++ "/" ++ name = second.workDirName ++ "/" ++ other) :
    first = second ∧ name = other := by
  have lists : first.workDirName.toList ++ '/' :: name.toList =
      second.workDirName.toList ++ '/' :: other.toList := by
    simpa using congrArg String.toList same
  have parts := (List.append_cons_inj_of_notMem first.slash_not_mem_workDirName nameOnly).mp lists
  exact ⟨workDirName_injective (String.toList_injective parts.1),
    String.toList_injective parts.2.2⟩

/-- An escaped name tells the name and has no point, and the name of its directory tells a stream.
So the texts that name working files differ for different streams and for different passes. They are
different files as well, except that the database and the table with empty names have the same. -/
theorem names_passFile_eq_iff (first second : StreamId) (number other : Nat)
    (name otherName : String) :
    (escapeName name = escapeName otherName ↔ name = otherName) ∧
      '.' ∉ (escapeName name).toList ∧
      (first.workDirName = second.workDirName ↔ first = second) ∧
      (first.workDirName ++ "/" ++ passFileName number =
          second.workDirName ++ "/" ++ passFileName other ↔ first = second ∧ number = other) ∧
      (Path.names (first.passFile number) = Path.names (second.passFile other) ↔
        (first = second ∨ first.ShareDirectory second) ∧ number = other) := by
  refine ⟨⟨fun same => escapeName_injective same, congrArg escapeName⟩, (not_mem_escapeName name).1,
    ⟨fun same => workDirName_injective same, congrArg workDirName⟩, ?_, ?_⟩
  · constructor
    · intro same
      rcases workDirName_slash_inj (slash_not_mem_passFileName number) same with
        ⟨streams, numbers⟩
      exact ⟨streams, passFileName_injective numbers⟩
    · rintro ⟨rfl, rfl⟩
      rfl
  · constructor
    · intro same
      rcases directory_and_number_eq same with ⟨directories, numbers⟩
      exact ⟨directory_eq_iff.mp directories, numbers⟩
    · rintro ⟨streams, rfl⟩
      rw [names_passFile, names_passFile, directory_eq_iff.mpr streams]

/-- Two streams with one working file. -/
theorem exists_shared_passFile :
    (⟨"", none⟩ : StreamId) ≠ ⟨"", some ""⟩ ∧
      Path.names (passFile ⟨"", none⟩ 0) = Path.names (passFile ⟨"", some ""⟩ 0) := by
  decide +kernel

end StreamId

end RowLog
