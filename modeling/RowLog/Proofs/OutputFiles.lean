import RowLog.Proofs.StreamFiles

/-!
# The output tree

The output of a stream is a log file in the directory of its database or, below that, of its table.
The directories have the escaped names of database and table, but an empty name names no directory,
and a table may have the name of the log file. So it is told by the names alone which streams are in
each other's way. Main statement: `StreamId.haveApartOutputs_iff`.
-/

namespace RowLog

/-- Whether a path leads to a directory on the way to another one. -/
def Path.IsAbove (path other : String) : Prop :=
  ∃ name rest, names other = names path ++ name :: rest

namespace StreamId

/-- The names of a stream that name a directory of their own. -/
def givenNames (stream : StreamId) : List String :=
  (stream.schema :: stream.table.toList).filter (· ≠ "")

/-- Whether both names of a stream name a directory. -/
def IsNamed (stream : StreamId) : Prop :=
  stream.schema ≠ "" ∧ stream.table ≠ some ""

instance (stream : StreamId) : Decidable stream.IsNamed :=
  inferInstanceAs (Decidable (_ ∧ _))

/-- Whether the outputs of two streams are at different paths, and neither of the paths is that of a
directory on the way to the other. -/
structure HaveApartOutputs (root : String) (first second : StreamId) : Prop where
  names_ne : Path.names (first.outputFile root) ≠ Path.names (second.outputFile root)
  not_isAbove : ¬Path.IsAbove (first.outputFile root) (second.outputFile root)
  not_isBelow : ¬Path.IsAbove (second.outputFile root) (first.outputFile root)

/-- Whether a stream is that of a database and another one that of its table with the name of the
log file. -/
def IsBlockedBy (table database : StreamId) : Prop :=
  ∃ schema, database = ⟨schema, none⟩ ∧ table = ⟨schema, some (logFileName 0)⟩

variable {first second : StreamId}

theorem escapeName_ne {name other : String} (notEmpty : name ≠ "")
    (dots : other = "" ∨ '.' ∈ other.toList) : escapeName name ≠ other := by
  rintro rfl
  rcases dots with empty | dot
  · exact notEmpty (escapeName_injective (empty.trans escapeName_empty.symm))
  · exact (not_mem_escapeName name).1 dot

theorem names_escapeName (name : String) :
    Path.names (escapeName name) = ([name].filter (· ≠ "")).map escapeName := by
  by_cases empty : name = ""
  · rw [empty]
    rfl
  · have named : Path.names (escapeName name) = [escapeName name] :=
      Path.names_of_name (not_mem_escapeName name).2 (escapeName_ne empty (.inl rfl))
        (escapeName_ne empty (.inr (by decide))) (escapeName_ne empty (.inr (by decide)))
    simp [named, empty]

theorem names_join_escapeName (directory name : String) :
    Path.names (Path.join directory (escapeName name)) =
      Path.names directory ++ ([name].filter (· ≠ "")).map escapeName := by
  have notBack : escapeName name ≠ ".." := by
    intro back
    have noDot := (not_mem_escapeName name).1
    simp [back] at noDot
  rw [Path.names_join directory (not_mem_escapeName name).2 notBack, names_escapeName]

theorem escapeName_logFileName : escapeName (logFileName 0) = logFileName 0 := by
  decide +kernel

/-- To the output of a stream lead the names that it is given, below the root. -/
theorem names_outputFile (root : String) (stream : StreamId) :
    Path.names (stream.outputFile root) =
      Path.names root ++ (stream.givenNames ++ [logFileName 0]).map escapeName := by
  have below (directory : String) : Path.names (Path.join directory (logFileName 0)) =
      Path.names directory ++ [escapeName (logFileName 0)] := by
    rw [Path.names_join directory (by decide +kernel) (by decide +kernel), escapeName_logFileName]
    rfl
  rw [outputFile, below, outputDir, List.map_append, List.map_singleton, ← List.append_assoc]
  congr 1
  rcases stream with ⟨schema, _ | table⟩
  · exact names_join_escapeName root schema
  · simp only [names_join_escapeName, givenNames, List.append_assoc, ← List.map_append,
      ← List.filter_append]
    rfl

theorem names_outputFile_eq_iff (root : String) :
    Path.names (first.outputFile root) = Path.names (second.outputFile root) ↔
      first.givenNames = second.givenNames := by
  have injective := List.map_injective_iff.mpr fun _ _ => escapeName_injective
  rw [names_outputFile, names_outputFile, List.append_cancel_left_eq, injective.eq_iff,
    List.append_cancel_right_eq]

/-- The output of a stream is where the directory of another one should be exactly if the names of
the other one go on with that of the log file. -/
theorem isAbove_outputFile_iff (root : String) :
    Path.IsAbove (first.outputFile root) (second.outputFile root) ↔
      first.givenNames ++ [logFileName 0] <+: second.givenNames := by
  have secondNames : (second.givenNames ++ [logFileName 0]).map escapeName =
      second.givenNames.map escapeName ++ [logFileName 0].map escapeName :=
    List.map_append
  rw [← List.prefix_map_iff_of_injective fun _ _ => escapeName_injective, Path.IsAbove,
    names_outputFile, names_outputFile, secondNames]
  constructor
  · rintro ⟨name, rest, same⟩
    rw [List.append_assoc, List.append_cancel_left_eq] at same
    -- The last name is that of the log file on both sides.
    have directories := congrArg List.dropLast same
    rw [List.map_singleton, List.dropLast_concat, List.dropLast_append_cons] at directories
    exact ⟨_, directories.symm⟩
  · rintro ⟨between, same⟩
    rcases List.exists_cons_of_ne_nil (List.append_ne_nil_of_right_ne_nil between
      (List.cons_ne_nil (escapeName (logFileName 0)) [])) with ⟨name, rest, onward⟩
    refine ⟨name, rest, ?_⟩
    rw [← onward, ← same, List.map_singleton, List.append_assoc, List.append_assoc]

theorem givenNames_of_isNamed {stream : StreamId} (named : stream.IsNamed) :
    stream.givenNames = stream.schema :: stream.table.toList := by
  rcases named with ⟨schema, table⟩
  apply List.filter_eq_self.mpr
  intro name nameMem
  rcases List.mem_cons.mp nameMem with rfl | nameMem
  · simpa using schema
  · have notEmpty : name ≠ "" := fun empty => table (empty ▸ Option.mem_toList.mp nameMem)
    simpa using notEmpty

/-- The names of two streams do not get in each other's way: with the name of the log file at their
end, those of neither are the first names of the other. -/
theorem haveApartOutputs_iff_givenNames (root : String) :
    HaveApartOutputs root first second ↔ first.givenNames ≠ second.givenNames ∧
      ¬first.givenNames ++ [logFileName 0] <+: second.givenNames ∧
      ¬second.givenNames ++ [logFileName 0] <+: first.givenNames := by
  rw [← isAbove_outputFile_iff root, ← isAbove_outputFile_iff root, Ne,
    ← names_outputFile_eq_iff root]
  exact ⟨fun apart => ⟨apart.1, apart.2, apart.3⟩, fun apart => ⟨apart.1, apart.2.1, apart.2.2⟩⟩

theorem prefix_givenNames_iff (firstNamed : first.IsNamed) (secondNamed : second.IsNamed) :
    first.givenNames ++ [logFileName 0] <+: second.givenNames ↔ second.IsBlockedBy first := by
  rw [givenNames_of_isNamed firstNamed, givenNames_of_isNamed secondNamed]
  rcases first with ⟨schema, _ | table⟩ <;> rcases second with ⟨other, _ | otherTable⟩
  · simp [IsBlockedBy]
  · simp [IsBlockedBy, eq_comm]
  · simp [IsBlockedBy]
  · simp [IsBlockedBy]

theorem givenNames_inj (firstNamed : first.IsNamed) (secondNamed : second.IsNamed)
    (same : first.givenNames = second.givenNames) : first = second := by
  rw [givenNames_of_isNamed firstNamed, givenNames_of_isNamed secondNamed] at same
  rcases first with ⟨schema, _ | table⟩ <;> rcases second with ⟨other, _ | otherTable⟩
  all_goals simp_all

/-- The outputs of two streams are apart exactly if their names, empty ones left out, do not get in
each other's way. So those of different streams without empty names are, unless one stream is that
of a database and the other one that of its table with the name of the log file. -/
theorem haveApartOutputs_iff (root : String) (first second : StreamId) :
    (HaveApartOutputs root first second ↔ first.givenNames ≠ second.givenNames ∧
      ¬first.givenNames ++ [logFileName 0] <+: second.givenNames ∧
      ¬second.givenNames ++ [logFileName 0] <+: first.givenNames) ∧
    (first ≠ second → first.IsNamed → second.IsNamed →
      (HaveApartOutputs root first second ↔
        ¬second.IsBlockedBy first ∧ ¬first.IsBlockedBy second)) := by
  refine ⟨haveApartOutputs_iff_givenNames root, fun differ firstNamed secondNamed => ?_⟩
  have namesDiffer : first.givenNames ≠ second.givenNames :=
    fun same => differ (givenNames_inj firstNamed secondNamed same)
  rw [haveApartOutputs_iff_givenNames root, prefix_givenNames_iff firstNamed secondNamed,
    prefix_givenNames_iff secondNamed firstNamed]
  exact and_iff_right namesDiffer

/-- A point in a name is no separator, and a database may have the name of the log file. -/
theorem haveApartOutputs_of_similar_names :
    HaveApartOutputs "out" ⟨"a.b", none⟩ ⟨"a", some "b"⟩ ∧
      HaveApartOutputs "out" ⟨logFileName 0, none⟩ ⟨logFileName 0, some "a/b"⟩ := by
  constructor
  · refine ((haveApartOutputs_iff "out" _ _).2 (by decide) (by decide) (by decide)).mpr ?_
    simp [IsBlockedBy]
  · refine ((haveApartOutputs_iff "out" _ _).2 (by simp) (by decide +kernel)
      (by decide +kernel)).mpr ?_
    have differs : logFileName 0 ≠ "a/b" := by decide +kernel
    simp [IsBlockedBy, differs.symm]

/-- A table with an empty name has the output of its database, and one with the name of the log file
should have its own below that output. -/
theorem exists_outputs_not_apart :
    ¬HaveApartOutputs "out" ⟨"s", none⟩ ⟨"s", some ""⟩ ∧
      ¬HaveApartOutputs "out" ⟨"s", none⟩ ⟨"s", some "binlog-0000000000000000"⟩ := by
  constructor
  · intro apart
    exact apart.names_ne (by decide +kernel)
  · intro apart
    exact apart.not_isAbove ⟨"binlog-0000000000000000", [], by decide +kernel⟩

end StreamId

end RowLog
