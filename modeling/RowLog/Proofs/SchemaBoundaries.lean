import RowLog.Proofs.Boundary
import RowLog.Proofs.NamedTables
import RowLog.Proofs.Selection

/-!
# Schema changes and the streams of their tables

A schema change is carried by the streams of all tables that it creates, changes or removes, except
that a renaming is carried under the new names only. So it divides what is written for these tables.
A table that has been renamed away is divided too, if its stream ends there; but if another table is
given the old name later, rows from before the renaming may be written as of a time after it. Main
statement: `Compactor.isBoundary_of_schemaChange`.
-/

namespace RowLog

/-! ### What carries a schema change -/

namespace Schema.Ddl

variable {ddl : Ddl} {text : String} {names : List QualifiedName} {name : QualifiedName}

/-- Whether tables are renamed, and the statement is not carried under a given one of their names:
it is none of the new names, of which only the last one counts where a table is altered. -/
def RenamesAway (ddl : Ddl) (name : QualifiedName) : Prop :=
  match ddl.statement with
  | .renameTable pairs => ∀ pair ∈ pairs, ddl.resolve pair.2 ≠ .ok name
  | .alterTable _ specs =>
      ∃ target, (specs.filterMap AlterSpec.newName?).getLast? = some target ∧
        ddl.resolve target ≠ .ok name
  | _ => False

/-- Whether routing succeeds and a table is among those that carry something. -/
def IsCarriedBy (routed : Except CatalogError (List RoutedChange)) (name : QualifiedName) : Prop :=
  ∃ routes, routed = .ok routes ∧
    ∃ change ∈ routes, change.schema = name.schema ∧ change.table = some name.table

theorem isCarriedBy_whole {ref : TableRef} (resolved : ddl.resolve ref = .ok name) :
    IsCarriedBy (do return [.ofTable (← ddl.resolve ref) text]) name := by
  refine ⟨[.ofTable name text], ?_, .ofTable name text, by simp, rfl, rfl⟩
  rw [resolved]
  rfl

theorem isCarriedBy_mapM {α : Type} {items : List α} {step : α → Except CatalogError RoutedChange}
    {item : α} (itemMem : item ∈ items) (each : ∀ item ∈ items, ∃ change, step item = .ok change)
    (carried : ∀ change, step item = .ok change →
      change.schema = name.schema ∧ change.table = some name.table) :
    IsCarriedBy (items.mapM step) name := by
  rcases exists_mapM_eq_ok each with ⟨routes, routesEq⟩
  rcases exists_mem_of_mapM_eq_ok routesEq itemMem with ⟨change, changeMem, changeEq⟩
  exact ⟨routes, routesEq, change, changeMem, carried change changeEq⟩

theorem isCarriedBy_dropTable {refs : List TableRef} {ifExists : Bool}
    (statementEq : ddl.statement = .dropTable refs ifExists)
    (each : ∀ ref ∈ refs, ∃ name, ddl.resolve ref = .ok name) {ref : TableRef} (refMem : ref ∈ refs)
    (resolved : ddl.resolve ref = .ok name) : IsCarriedBy (ddl.routes text) name := by
  rcases refs with _ | ⟨first, _ | ⟨second, rest⟩⟩
  · contradiction
  · rw [List.mem_singleton.mp refMem] at resolved
    simp only [routes, statementEq]
    exact isCarriedBy_whole resolved
  · simp only [routes, statementEq]
    apply isCarriedBy_mapM refMem
    · intro other otherMem
      rcases each other otherMem with ⟨otherName, otherEq⟩
      exact ⟨_, by rw [otherEq]; rfl⟩
    · intro change changeEq
      rw [resolved] at changeEq
      cases changeEq
      exact ⟨rfl, rfl⟩

theorem isCarriedBy_renameTable {pairs : List (TableRef × TableRef)}
    (statementEq : ddl.statement = .renameTable pairs)
    (each : ∀ pair ∈ pairs, (∃ name, ddl.resolve pair.1 = .ok name) ∧
      ∃ name, ddl.resolve pair.2 = .ok name)
    {pair : TableRef × TableRef} (pairMem : pair ∈ pairs)
    (resolved : ddl.resolve pair.2 = .ok name) : IsCarriedBy (ddl.routes text) name := by
  rcases pairs with _ | ⟨first, _ | ⟨second, rest⟩⟩
  · contradiction
  · rw [List.mem_singleton.mp pairMem] at resolved
    simp only [routes, statementEq]
    exact isCarriedBy_whole resolved
  · simp only [routes, statementEq]
    apply isCarriedBy_mapM pairMem
    · intro other otherMem
      rcases each other otherMem with ⟨⟨source, sourceEq⟩, target, targetEq⟩
      exact ⟨_, by rw [sourceEq, targetEq]; rfl⟩
    · intro change changeEq
      rcases (each pair pairMem).1 with ⟨source, sourceEq⟩
      rw [sourceEq, resolved] at changeEq
      cases changeEq
      exact ⟨rfl, rfl⟩

theorem isCarriedBy_alterTable {table : TableRef} {specs : List AlterSpec}
    (statementEq : ddl.statement = .alterTable table specs) {ref : TableRef}
    (refMem : ref ∈ table :: specs.filterMap AlterSpec.newName?)
    (resolved : ddl.resolve ref = .ok name) (stays : ¬ddl.RenamesAway name) :
    IsCarriedBy (ddl.routes text) name := by
  simp only [routes, statementEq]
  apply isCarriedBy_whole
  cases last : (specs.filterMap AlterSpec.newName?).getLast? with
  | none =>
      rw [List.getLast?_eq_none_iff] at last
      rw [last, List.mem_singleton] at refMem
      rwa [← refMem]
  | some target =>
      by_contra other
      apply stays
      simp only [RenamesAway, statementEq]
      exact ⟨target, last, other⟩

/-- A statement is carried under every name of a table that it creates, changes or removes, unless
it is one that is renamed away. -/
theorem isCarriedBy_routes (tables : ddl.tables = .ok names) (nameMem : name ∈ names)
    (stays : ¬ddl.RenamesAway name) (text : String) : IsCarriedBy (ddl.routes text) name := by
  have each : ∀ ref ∈ tableRefs ddl.statement, ∃ name, ddl.resolve ref = .ok name := by
    intro ref refMem
    rcases Catalog.resolves_of_tables tables ref refMem with ⟨found, -, foundEq⟩
    exact ⟨found, foundEq⟩
  rcases Catalog.exists_ref_of_tables tables nameMem with ⟨ref, refMem, resolved⟩
  cases statementEq : ddl.statement with
  | createDatabase _ _ | alterDatabase _ | dropDatabase _ _ =>
      simp [statementEq, tableRefs] at refMem
  | createTable table _ _ _ | createTableLike table _ _ | truncateTable table | createIndex table _
  | dropIndex table _ =>
      rw [statementEq, tableRefs, List.mem_singleton] at refMem
      simp only [routes, statementEq, ← refMem]
      exact isCarriedBy_whole resolved
  | dropTable refs ifExists =>
      rw [statementEq, tableRefs] at refMem each
      exact isCarriedBy_dropTable statementEq each refMem resolved
  | alterTable table specs =>
      rw [statementEq, tableRefs] at refMem
      exact isCarriedBy_alterTable statementEq refMem resolved stays
  | renameTable pairs =>
      rw [statementEq, tableRefs] at each
      have target : ∃ pair ∈ pairs, ddl.resolve pair.2 = .ok name := by
        simpa [RenamesAway, statementEq] using stays
      rcases target with ⟨pair, pairMem, pairEq⟩
      apply isCarriedBy_renameTable statementEq _ pairMem pairEq
      intro other otherMem
      constructor
      · exact each other.1 (List.mem_flatMap.mpr ⟨other, otherMem, by simp⟩)
      · exact each other.2 (List.mem_flatMap.mpr ⟨other, otherMem, by simp⟩)

end Schema.Ddl

/-! ### The stream of a table -/

def StreamId.ofTable (name : Schema.QualifiedName) : StreamId :=
  ⟨name.schema, some name.table⟩

namespace Scope

variable {scope : Scope} {stream : StreamId} {log : List Record}

theorem stamp_of_mem_share {record other : Record} (otherMem : other ∈ scope.share stream record) :
    other.stamp = record.stamp := by
  rw [share] at otherMem
  split at otherMem
  next =>
    cases record with
    | schemaChange change =>
        simp only [StreamId.partOf] at otherMem
        split at otherMem
        next =>
          rcases List.mem_map.mp otherMem with ⟨routed, -, rfl⟩
          rfl
        next => contradiction
    | rowBatch batch =>
        simp only [StreamId.partOf] at otherMem
        split at otherMem
        next => contradiction
        next =>
          rw [List.mem_singleton.mp otherMem]
          rfl
  next => contradiction

theorem pairwise_share (record : Record) :
    (scope.share stream record).Pairwise Record.Precedes := by
  rw [share]
  split
  next =>
    cases record with
    | schemaChange change =>
        simp only [StreamId.partOf]
        split
        next =>
          apply List.pairwise_of_forall_mem_list
          intro first firstMem second secondMem
          rcases List.mem_map.mp firstMem with ⟨firstRouted, -, rfl⟩
          rcases List.mem_map.mp secondMem with ⟨secondRouted, -, rfl⟩
          exact .inr ⟨rfl, rfl, rfl⟩
        next => simp
    | rowBatch batch =>
        simp only [StreamId.partOf]
        split <;> simp
  next => simp

theorem pairwise_flatMap_share
    (increasing : log.Pairwise fun first second => first.stamp < second.stamp) :
    (log.flatMap (scope.share stream)).Pairwise Record.Precedes := by
  apply List.pairwise_flatMap.mpr
  refine ⟨fun record _ => pairwise_share record, increasing.imp ?_⟩
  intro first second lt firstPart firstMem secondPart secondMem
  left
  rw [stamp_of_mem_share firstMem, stamp_of_mem_share secondMem]
  exact lt

theorem isChangedAt_flatMap_share {change : SchemaChange} {name : Schema.QualifiedName}
    (changeMem : .schemaChange change ∈ log)
    (inside : scope.window.contains change.stamp = true)
    (allowed : scope.filter.allows name.schema (some name.table) = true)
    (carried : Schema.Ddl.IsCarriedBy (Schema.route change.statement) name) :
    IsChangedAt (log.flatMap (scope.share (.ofTable name))) change.stamp := by
  rcases carried with ⟨routes, routeEq, routed, routedMem, schemaEq, tableEq⟩
  have admitted : (scope.window.contains (Record.schemaChange change).stamp &&
      scope.filter.allows (StreamId.ofTable name).schema (StreamId.ofTable name).table) = true := by
    simp [Record.stamp, StreamId.ofTable, inside, allowed]
  refine ⟨⟨change.stamp, routed.statement⟩, List.mem_flatMap.mpr ⟨_, changeMem, ?_⟩, rfl⟩
  rw [share, if_pos admitted]
  simp only [StreamId.partOf, routeEq]
  apply List.mem_map_of_mem
  simp [routedMem, StreamId.ofTable, schemaEq, tableEq]

end Scope

namespace Selection

open RowLog.Partition

/-- In a log without two records of one time, nothing is lost by setting files aside. -/
theorem sameStreams_of_increasing (scope : Scope) {files : List LogFile}
    (readable : ∀ file ∈ files, file.contents.failure = none)
    (increasing : (recordsOf (inOrder files)).Pairwise fun first second =>
      first.stamp < second.stamp) :
    ∃ selection partition, ofFiles scope.window files = .ok selection ∧
      ofSelection scope selection = .ok partition ∧
      SameStreams partition ((recordsOf (inOrder files)).foldl (addRecord scope) empty) := by
  have ordered : IsOrdered (recordsOf (inOrder files)) := increasing.imp Int64.le_of_lt
  rcases exists_parts scope readable ordered with
    ⟨selection, dropped, selected, partitioned, log, followed, late⟩
  refine ⟨selection, _, selected, partitioned, ?_⟩
  rw [log]
  apply (sameStreams_of_parts_iff _ _ late).mpr
  intro record recordMem _
  rcases followed record recordMem with ⟨next, follows, nextStamp⟩
  have before := List.pairwise_pair.mp (increasing.sublist follows)
  apply Scope.entries_of_outside
  intro inside
  have reached := (Window.contains_iff.mp inside).1
  exact Int64.lt_irrefl (Int64.lt_of_lt_of_le before (Int64.le_trans nextStamp reached))

end Selection

namespace Compactor

open RowLog.Partition

/-- Whether a time is a boundary for a table: when a log is split and the stream of the table is
compacted, all that is written lies on one side of it. The files of the stream hold what is
compacted, unless they are those of another stream too. -/
def IsBoundary (scope : Scope) (catalog : Catalog) (files : List LogFile)
    (name : Schema.QualifiedName) (time : Timestamp) : Prop :=
  ∃ selection partition passes timeline,
    Selection.ofFiles scope.window files = .ok selection ∧
      ofSelection scope selection = .ok partition ∧
      (partition.passesOf (.ofTable name)).toList = passes ∧
      ((StreamId.HaveOwnFiles fun stream =>
          (recordsOf (inOrder files)).flatMap (scope.share stream) ≠ []) →
        .ofTable name ∈ partition.streams →
        partition.passBytes (.ofTable name) = passes.map logBytes) ∧
      Timeline.build catalog partition.schemaChanges scope.window.start = timeline ∧
      ∀ batch,
        .rowBatch batch ∈ (compact timeline (passes.map fun records => ⟨records, none⟩)).1.written →
        batch.OnOneSide timeline
          ((recordsOf (inOrder files)).flatMap (scope.share (.ofTable name))) time

/-- A schema change is a boundary for the tables that it creates, changes or removes, be it under an
old name or a new one; but for a table that is renamed away only if nothing more comes for it. -/
theorem isBoundary_of_schemaChange (scope : Scope) (catalog : Catalog) (files : List LogFile)
    (readable : ∀ file ∈ files, file.contents.failure = none)
    (increasing : (recordsOf (inOrder files)).Pairwise fun first second =>
      first.stamp < second.stamp)
    (change : SchemaChange) (changeMem : .schemaChange change ∈ recordsOf (inOrder files))
    (inside : scope.window.contains change.stamp = true)
    (ddl : Schema.Ddl) (parsed : Schema.Ddl.parse change.statement = .ok ddl)
    (names : List Schema.QualifiedName) (tables : ddl.tables = .ok names)
    (name : Schema.QualifiedName) (nameMem : name ∈ names)
    (allowed : scope.filter.allows name.schema (some name.table) = true)
    (last : ddl.RenamesAway name →
      ∀ record ∈ (recordsOf (inOrder files)).flatMap (scope.share (.ofTable name)),
        record.stamp < change.stamp) :
    IsBoundary scope catalog files name change.stamp := by
  rcases Selection.sameStreams_of_increasing scope readable increasing with
    ⟨selection, partition, selected, partitioned, same⟩
  refine ⟨selection, partition, _, _, selected, partitioned, rfl, ?_, rfl, ?_⟩
  · intro own present
    rw [same.streams] at present
    rw [same.passBytes_eq, same.passesOf_eq]
    exact passBytes_foldl_addRecord own present
  · intro batch batchMem
    have records : ((partition.passesOf (.ofTable name)).toList.map fun records =>
          (⟨records, none⟩ : LogContents)).flatMap LogContents.records =
        (recordsOf (inOrder files)).flatMap (scope.share (.ofTable name)) := by
      rw [same.passesOf_eq, ← records_foldl_addRecord, Passes.records, List.flatMap_map]
      exact List.flatMap_id
    have ordered : ((recordsOf (inOrder files)).flatMap
        (scope.share (.ofTable name))).Pairwise Record.Precedes :=
      Scope.pairwise_flatMap_share increasing
    have divides : Divides change.stamp
        ((recordsOf (inOrder files)).flatMap (scope.share (.ofTable name))) := by
      by_cases away : ddl.RenamesAway name
      · -- The stream of the old name does not carry the change, but it ends there.
        exact .inr (last away)
      · left
        apply Scope.isChangedAt_flatMap_share changeMem inside allowed
        rw [Schema.route, parsed]
        exact Schema.Ddl.isCarriedBy_routes tables nameMem away change.statement
    rw [← records] at divides ordered ⊢
    exact onOneSide_of_mem_compact (by simp) ordered divides batchMem

def rowOf (id : Int64) : RowEvent :=
  ⟨"s", "a", .insert, [Column.encode ⟨"a", .long, .int id, none⟩]⟩

def fileOf (records : List Record) : LogFile :=
  ⟨"binlog-0000000000000000", some (logBytes records)⟩

/-- A table that gets a row, and another name at the time 5. -/
def renamed : List Record :=
  [.schemaChange ⟨1, "create database s"⟩,
    .schemaChange ⟨2, "create table s.a (a int primary key)"⟩, .rowBatch ⟨3, [rowOf 1]⟩,
    .schemaChange ⟨5, "rename table s.a to s.b"⟩]

/-- After the table is renamed, another one is created under its old name. -/
def reused : List Record :=
  renamed ++ [.schemaChange ⟨8, "create table s.a (a int primary key)"⟩]

def renameDdl : Schema.Ddl :=
  ⟨none, .renameTable [(⟨some "s", "a"⟩, ⟨some "s", "b"⟩)]⟩

theorem recordsOf_inOrder_fileOf {records : List Record}
    (readable : (fileOf records).contents = ⟨records, none⟩) (notEmpty : records ≠ []) :
    inOrder [fileOf records] = [fileOf records] ∧
      recordsOf (inOrder [fileOf records]) = records := by
  have sorted := inOrder_of_sorted [fileOf records]
    (by simp [LogFile.hasRecords, readable, notEmpty]) (List.pairwise_singleton _ _)
  simp [sorted, recordsOf, readable]

set_option maxRecDepth 10000 in
/-- The stream of the table under its old name ends before the table is renamed. -/
theorem isBoundary_of_last_rename :
    (∀ file ∈ [fileOf renamed], file.contents.failure = none) ∧
      ((recordsOf (inOrder [fileOf renamed])).Pairwise fun first second =>
        first.stamp < second.stamp) ∧
      .schemaChange ⟨5, "rename table s.a to s.b"⟩ ∈ recordsOf (inOrder [fileOf renamed]) ∧
      (everything 100).window.contains 5 = true ∧
      Schema.Ddl.parse "rename table s.a to s.b" = .ok renameDdl ∧
      renameDdl.tables = .ok [⟨"s", "a"⟩, ⟨"s", "b"⟩] ∧
      (everything 100).filter.allows "s" (some "a") = true ∧
      (renameDdl.RenamesAway ⟨"s", "a"⟩ →
        ∀ record ∈ (recordsOf (inOrder [fileOf renamed])).flatMap
          ((everything 100).share (.ofTable ⟨"s", "a"⟩)), record.stamp < 5) ∧
      IsBoundary (everything 100) .empty [fileOf renamed] ⟨"s", "a"⟩ 5 := by
  have contents : (fileOf renamed).contents = ⟨renamed, none⟩ := by decide +kernel
  have log := (recordsOf_inOrder_fileOf contents (by simp [renamed])).2
  have readable : ∀ file ∈ [fileOf renamed], file.contents.failure = none := by simp [contents]
  have increasing : (recordsOf (inOrder [fileOf renamed])).Pairwise fun first second =>
      first.stamp < second.stamp := by
    rw [log]
    decide +kernel
  have changeMem : .schemaChange ⟨5, "rename table s.a to s.b"⟩ ∈
      recordsOf (inOrder [fileOf renamed]) := by
    rw [log]
    simp [renamed]
  have inside : (everything 100).window.contains 5 = true := by decide +kernel
  have parsed : Schema.Ddl.parse "rename table s.a to s.b" = .ok renameDdl := by decide +kernel
  have tables : renameDdl.tables = .ok [⟨"s", "a"⟩, ⟨"s", "b"⟩] := by decide +kernel
  have allowed : (everything 100).filter.allows "s" (some "a") = true := by decide +kernel
  have last : renameDdl.RenamesAway ⟨"s", "a"⟩ →
      ∀ record ∈ (recordsOf (inOrder [fileOf renamed])).flatMap
        ((everything 100).share (.ofTable ⟨"s", "a"⟩)), record.stamp < 5 := by
    rw [log]
    intro _
    decide +kernel
  exact ⟨readable, increasing, changeMem, inside, parsed, tables, allowed, last,
    isBoundary_of_schemaChange (everything 100) .empty _ readable increasing _ changeMem inside
      renameDdl parsed _ tables ⟨"s", "a"⟩ (by simp) allowed last⟩

set_option maxRecDepth 10000 in
/-- The row from before the renaming is written as of the time before the other table is created. -/
theorem not_isBoundary_of_reused_name :
    (∀ file ∈ [fileOf reused], file.contents.failure = none) ∧
      ((recordsOf (inOrder [fileOf reused])).Pairwise fun first second =>
        first.stamp < second.stamp) ∧
      .schemaChange ⟨5, "rename table s.a to s.b"⟩ ∈ recordsOf (inOrder [fileOf reused]) ∧
      (everything 100).window.contains 5 = true ∧
      Schema.Ddl.parse "rename table s.a to s.b" = .ok renameDdl ∧
      renameDdl.tables = .ok [⟨"s", "a"⟩, ⟨"s", "b"⟩] ∧
      (everything 100).filter.allows "s" (some "a") = true ∧
      ¬IsBoundary (everything 100) .empty [fileOf reused] ⟨"s", "a"⟩ 5 := by
  have contents : (fileOf reused).contents = ⟨reused, none⟩ := by decide +kernel
  rcases recordsOf_inOrder_fileOf contents (by simp [reused]) with ⟨sorted, log⟩
  have readable : ∀ file ∈ [fileOf reused], file.contents.failure = none := by simp [contents]
  refine ⟨readable, ?_, ?_, by decide +kernel, by decide +kernel, by decide +kernel,
    by decide +kernel, ?_⟩
  · rw [log]
    decide +kernel
  · rw [log]
    simp [reused, renamed]
  rintro ⟨selection, partition, passes, timeline, selected, partitioned, passesEq, -, timelineEq,
    divided⟩
  have selectionEq : selection = ⟨[fileOf reused], []⟩ := by
    rw [Selection.ofFiles_of_readable _ readable, sorted, Except.ok.injEq] at selected
    rw [← selected]
    decide +kernel
  have partitionEq : partition = reused.foldl (addRecord (everything 100)) empty := by
    rw [selectionEq, ofSelection_of_readable _ _ (by simpa using readable), Except.ok.injEq]
      at partitioned
    simpa [recordsOf, contents] using partitioned.symm
  have changesEq : partition.schemaChanges = partition.changes := by
    rw [partitionEq]
    apply List.mergeSort_of_pairwise
    decide +kernel
  have written : .rowBatch ⟨7, [rowOf 1]⟩ ∈
      (compact timeline (passes.map fun records => ⟨records, none⟩)).1.written := by
    rw [← timelineEq, ← passesEq, changesEq, partitionEq]
    decide +kernel
  have events : eventsOf (reused.flatMap ((everything 100).share (.ofTable ⟨"s", "a"⟩))) =
      [(3, rowOf 1)] := by
    decide +kernel
  rcases divided _ written with ⟨source, part, ⟨nets, pending, keyed, folded, drained⟩, side⟩
  have nothing : source = [] := by
    rcases side with ⟨early, -⟩ | ⟨-, late⟩
    · exact absurd early (by decide)
    · apply List.eq_nil_iff_forall_not_mem.mpr
      intro event eventMem
      have only : event = (3, rowOf 1) := by
        rw [log, events] at part
        exact List.mem_singleton.mp (part.subset eventMem)
      have notEarly := late event eventMem
      rw [only] at notEarly
      exact absurd notEarly (by decide)
  rw [nothing, List.forall₂_nil_left_iff] at keyed
  rw [keyed, Pending.applyAll, Except.ok.injEq] at folded
  have inDrain := drained (rowOf 1) (by simp)
  rw [← folded, Pending.fst_drain_empty] at inDrain
  contradiction

end Compactor

end RowLog
