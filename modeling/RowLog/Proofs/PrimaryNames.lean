import RowLog.Proofs.KeyColumns

/-!
# The name of the primary key

`ALTER TABLE … DROP PRIMARY KEY` finds the primary key by its name. It takes away the primary key
and nothing else exactly if the name is that of the primary key alone; and this is so after
statements that do not mention the name. Main statement: `Catalog.dropsPrimaryKey_iff`.
-/

namespace RowLog

open Schema

namespace TableDef

variable {definition next : TableDef} {name : String}

/-- Whether the primary key has the name that is meant for it, and no other index has this name. -/
def ReservesPrimaryName (definition : TableDef) : Prop :=
  ∀ index ∈ definition.indexes, sameIgnoringCase index.name primaryKeyName = index.primary

instance (definition : TableDef) : Decidable definition.ReservesPrimaryName :=
  inferInstanceAs (Decidable (∀ index ∈ definition.indexes, _))

/-! ### Dropping the index with this name -/

theorem exists_dropIndex_eq_ok_iff :
    (∃ next, definition.dropIndex name = .ok next) ↔ definition.hasIndex name = true := by
  unfold dropIndex
  split <;> simp_all

theorem primaryKey_info_ne_none_iff : definition.info.primaryKey ≠ none ↔
    ∃ index ∈ definition.indexes, index.primary = true := by
  simp [info]

theorem primaryKey_info_eq_none_iff : definition.info.primaryKey = none ↔
    ∀ index ∈ definition.indexes, index.primary = false := by
  simp [info]

/-- Whether there is an index with the name of the primary key exactly if there is a primary key,
and to drop it changes nothing else that is known of the table. -/
def DropsPrimaryKey (definition : TableDef) : Prop :=
  ((∃ next, definition.dropIndex primaryKeyName = .ok next) ↔ definition.info.primaryKey ≠ none) ∧
    ∀ next, definition.dropIndex primaryKeyName = .ok next →
      next.info = { definition.info with primaryKey := none }

namespace IsWellFormed

theorem names_distinct (wellFormed : definition.IsWellFormed)
    (reserves : definition.ReservesPrimaryName) : definition.indexes.Pairwise fun first second =>
      sameIgnoringCase first.name second.name = false := by
  refine ((wellFormed.names_differ.and wellFormed.one_primary).imp_of_mem ?_)
  intro first second firstMem secondMem ⟨differ, notBoth⟩
  rw [Bool.eq_false_iff]
  intro same
  have secondPrimary := differ same
  have secondNamed := reserves second secondMem
  rw [secondPrimary] at secondNamed
  have firstNamed := reserves first firstMem
  rw [sameIgnoringCase_congr same, secondNamed] at firstNamed
  exact notBoth ⟨firstNamed.symm, secondPrimary⟩

theorem dropsPrimaryKey (wellFormed : definition.IsWellFormed)
    (reserves : definition.ReservesPrimaryName) : definition.DropsPrimaryKey := by
  constructor
  · rw [exists_dropIndex_eq_ok_iff, hasIndex_iff, primaryKey_info_ne_none_iff]
    refine exists_congr fun index => and_congr_right fun indexMem => ?_
    rw [reserves index indexMem]
  · intro next dropped
    rcases dropIndex_eq_ok dropped with ⟨before, found, after, indexesEq, -, same, rfl⟩
    have foundPrimary : found.primary = true := by
      rw [← reserves found (by simp [indexesEq]), same]
    -- No index but the one that is dropped is the primary key.
    have onePrimary := wellFormed.one_primary
    rw [indexesEq, List.pairwise_append, List.pairwise_cons] at onePrimary
    rcases onePrimary with ⟨-, ⟨afterNot, -⟩, beforeNot⟩
    have others : ∀ index ∈ before ++ after, index.primary = false := by
      intro index indexMem
      rw [Bool.eq_false_iff]
      intro primary
      rcases List.mem_append.mp indexMem with beforeMem | afterMem
      · exact beforeNot index beforeMem found (by simp) ⟨primary, foundPrimary⟩
      · exact afterNot index afterMem ⟨foundPrimary, primary⟩
    have primaryGone : ({ definition with indexes := before ++ after } : TableDef).info.primaryKey =
        none :=
      primaryKey_info_eq_none_iff.mpr others
    simp only [info, TableInfo.mk.injEq, true_and] at primaryGone ⊢
    refine ⟨primaryGone, ?_⟩
    simp [indexesEq, foundPrimary]

/-- If dropping the index with this name does right, then that index is the primary key, and a later
one that has the name as well is, too. -/
theorem reservesPrimaryName (wellFormed : definition.IsWellFormed)
    (drops : definition.DropsPrimaryKey) : definition.ReservesPrimaryName := by
  rcases drops with ⟨accepted, effect⟩
  intro index indexMem
  by_cases isThere : definition.hasIndex primaryKeyName = true
  · rcases exists_dropIndex_eq_ok_iff.mpr isThere with ⟨next, dropped⟩
    have infoEq := effect next dropped
    rcases dropIndex_eq_ok dropped with ⟨before, found, after, indexesEq, differ, same, rfl⟩
    have others := primaryKey_info_eq_none_iff.mp (congrArg TableInfo.primaryKey infoEq)
    rcases primaryKey_info_ne_none_iff.mp (accepted.mp ⟨_, dropped⟩) with
      ⟨primary, primaryMem, isPrimary⟩
    have foundPrimary : found.primary = true := by
      rw [indexesEq] at primaryMem
      rcases List.mem_append.mp primaryMem with beforeMem | laterMem
      · simp [others primary (by simp [beforeMem])] at isPrimary
      · rcases List.mem_cons.mp laterMem with rfl | afterMem
        · exact isPrimary
        · simp [others primary (by simp [afterMem])] at isPrimary
    rw [indexesEq] at indexMem
    rcases List.mem_append.mp indexMem with beforeMem | laterMem
    · rw [differ index beforeMem, others index (by simp [beforeMem])]
    · rcases List.mem_cons.mp laterMem with rfl | afterMem
      · rw [same, foundPrimary]
      · rw [others index (by simp [afterMem]), Bool.eq_false_iff]
        intro sameName
        have namesDiffer := wellFormed.names_differ
        rw [indexesEq, List.pairwise_append, List.pairwise_cons] at namesDiffer
        rw [sameIgnoringCase_comm, ← sameIgnoringCase_congr same] at sameName
        have primary := namesDiffer.2.1.1 index afterMem sameName
        simp [others index (by simp [afterMem])] at primary
  · have noPrimary : definition.info.primaryKey = none := by
      by_contra some
      exact isThere (exists_dropIndex_eq_ok_iff.mp (accepted.mpr some))
    rw [primaryKey_info_eq_none_iff.mp noPrimary index indexMem]
    exact hasIndex_eq_false_iff.mp (by simpa using isThere) index indexMem

end IsWellFormed

/-! ### Changes that do not mention the name -/

/-- The indexes that a change asks for. -/
def addedIndexes : AlterSpec → List IndexDef
  | .addColumns columns _ => columns.filterMap inlineIndex?
  | .modifyColumn column _ => (inlineIndex? column).toList
  | .changeColumn _ column _ => (inlineIndex? column).toList
  | .addIndex index => [index]
  | _ => []

/-- Whether an index is the primary key, or neither its name nor, if it is given none, its first
column is named like the primary key. -/
def SparesPrimaryName (index : IndexDef) : Prop :=
  index.primary = false →
    sameIgnoringCase (index.name.getD (index.columns.headD "")) primaryKeyName = false

instance (index : IndexDef) : Decidable (SparesPrimaryName index) :=
  inferInstanceAs (Decidable (index.primary = false → _ = false))

/-- Whether a change renames no index from or to the name of the primary key. -/
def KeepsPrimaryName : AlterSpec → Prop
  | .renameIndex source target =>
      sameIgnoringCase source primaryKeyName = false ∧
        sameIgnoringCase target primaryKeyName = false
  | _ => True

theorem ListsAs.reserves {index : IndexDef} {listed : TableIndex}
    (lists : definition.ListsAs index listed) (spares : SparesPrimaryName index) :
    sameIgnoringCase listed.name primaryKeyName = listed.primary := by
  cases primary : listed.primary with
  | true =>
      rw [(lists.name_of_primary primary).1]
      exact sameIgnoringCase_iff.mpr rfl
  | false =>
      rw [lists.primary_eq] at primary
      have differs := spares primary
      have nameEq := lists.name_eq
      rw [indexName, if_neg (by simp [primary])] at nameEq
      cases nameGiven : index.name with
      | some given =>
          simp only [nameGiven, Option.getD_some] at nameEq differs
          split at nameEq
          · contradiction
          · rwa [← Except.ok.inj nameEq]
      | none =>
          simp only [nameGiven, Option.getD_none] at nameEq differs
          rw [← Except.ok.inj nameEq]
          apply defaultIndexName_ne_primaryKeyName
          -- The table may spell the first column in another way than the change does.
          have columnsEq := declaredColumns_eq_ok_iff.mp lists.columns_eq
          generalize index.columns = names at columnsEq differs
          generalize listed.columns = spelled at columnsEq
          cases columnsEq with
          | nil => decide
          | cons first rest =>
              rcases first with ⟨column, found, spelledEq⟩
              rw [List.headD_cons] at differs ⊢
              rwa [← spelledEq, sameIgnoringCase_congr (same_of_column?_eq_some found)]

namespace ReservesPrimaryName

variable {column : ColumnDef} {position : Position}

theorem of_indexes (reserves : definition.ReservesPrimaryName)
    (kept : ∀ index ∈ next.indexes,
      ∃ old ∈ definition.indexes, old.name = index.name ∧ old.primary = index.primary) :
    next.ReservesPrimaryName := by
  intro index indexMem
  rcases kept index indexMem with ⟨old, oldMem, nameEq, primaryEq⟩
  rw [← nameEq, ← primaryEq]
  exact reserves old oldMem

theorem addIndex (reserves : definition.ReservesPrimaryName) {index : IndexDef}
    (spares : SparesPrimaryName index) (added : definition.addIndex index = .ok next) :
    next.ReservesPrimaryName := by
  rcases addIndex_eq_ok_iff.mp added with ⟨-, rfl⟩ | ⟨listed, lists, rfl⟩
  · exact reserves
  · intro other otherMem
    rcases List.mem_append.mp otherMem with earlier | last
    · exact reserves other earlier
    · rw [List.mem_singleton.mp last]
      exact lists.reserves spares

theorem addInlineIndex (reserves : definition.ReservesPrimaryName)
    (spares : ∀ index ∈ inlineIndex? column, SparesPrimaryName index)
    (added : definition.addInlineIndex column = .ok next) : next.ReservesPrimaryName := by
  rcases addInlineIndex_eq_ok added with rfl | ⟨index, asked, indexed⟩
  · exact reserves
  · exact reserves.addIndex (spares index asked) indexed

theorem addColumn (reserves : definition.ReservesPrimaryName)
    (spares : ∀ index ∈ inlineIndex? column, SparesPrimaryName index)
    (added : definition.addColumn column position = .ok next) : next.ReservesPrimaryName := by
  rcases addColumn_eq_ok added with ⟨-, inserted, insertedEq, indexed⟩
  have insertedReserves : inserted.ReservesPrimaryName := by
    unfold ReservesPrimaryName
    rwa [(insertColumn_eq_ok insertedEq).1]
  exact insertedReserves.addInlineIndex spares indexed

theorem addColumns (reserves : definition.ReservesPrimaryName) {columns : List ColumnDef}
    (spares : ∀ index ∈ columns.filterMap inlineIndex?, SparesPrimaryName index)
    (added : definition.addColumns position columns = .ok next) : next.ReservesPrimaryName := by
  induction columns generalizing definition position with
  | nil => rwa [← Except.ok.inj added]
  | cons column rest ih =>
      rcases bind_eq_ok_iff.mp added with ⟨middle, first, later⟩
      have middleReserves := reserves.addColumn
        (fun index asked => spares index (List.mem_filterMap.mpr ⟨column, by simp, asked⟩)) first
      refine ih middleReserves (fun index indexMem => ?_) later
      rcases List.mem_filterMap.mp indexMem with ⟨asking, askingMem, asked⟩
      exact spares index (List.mem_filterMap.mpr ⟨asking, by simp [askingMem], asked⟩)

theorem replaceColumn (reserves : definition.ReservesPrimaryName) {old : String}
    (spares : ∀ index ∈ inlineIndex? column, SparesPrimaryName index)
    (replaced : definition.replaceColumn old column position = .ok next) :
    next.ReservesPrimaryName := by
  rcases replaceColumn_eq_ok replaced with ⟨-, placed, indexesEq, -, indexed⟩
  have placedReserves : placed.ReservesPrimaryName := by
    apply reserves.of_indexes
    intro index indexMem
    rw [indexesEq] at indexMem
    rcases List.mem_map.mp indexMem with ⟨before, beforeMem, rfl⟩
    exact ⟨before, beforeMem, rfl, rfl⟩
  exact placedReserves.addInlineIndex spares indexed

theorem dropColumn (reserves : definition.ReservesPrimaryName)
    (dropped : definition.dropColumn name = .ok next) : next.ReservesPrimaryName := by
  rcases dropColumn_eq_ok dropped with rfl
  apply reserves.of_indexes
  intro index indexMem
  rcases List.mem_map.mp (List.mem_of_mem_filter indexMem) with ⟨before, beforeMem, rfl⟩
  exact ⟨before, beforeMem, rfl, rfl⟩

theorem renameColumn (reserves : definition.ReservesPrimaryName) {source target : String}
    (renamed : definition.renameColumn source target = .ok next) : next.ReservesPrimaryName := by
  rcases renameColumn_eq_ok renamed with ⟨-, -, rfl⟩
  apply reserves.of_indexes
  intro index indexMem
  rcases List.mem_map.mp indexMem with ⟨before, beforeMem, rfl⟩
  exact ⟨before, beforeMem, rfl, rfl⟩

theorem dropIndex (reserves : definition.ReservesPrimaryName)
    (dropped : definition.dropIndex name = .ok next) : next.ReservesPrimaryName := by
  rcases dropIndex_eq_ok dropped with ⟨before, found, after, indexesEq, -, -, rfl⟩
  apply reserves.of_indexes
  intro index indexMem
  refine ⟨index, ?_, rfl, rfl⟩
  rw [indexesEq]
  rcases List.mem_append.mp indexMem with beforeMem | afterMem
  · simp [beforeMem]
  · simp [afterMem]

theorem renameIndex (reserves : definition.ReservesPrimaryName) {source target : String}
    (keeps : KeepsPrimaryName (.renameIndex source target))
    (renamed : definition.renameIndex source target = .ok next) : next.ReservesPrimaryName := by
  rcases keeps with ⟨sourceDiffers, targetDiffers⟩
  rcases renameIndex_eq_ok renamed with ⟨-, rfl⟩
  intro index indexMem
  rcases mem_updateIndex indexMem with unchanged | ⟨old, oldMem, same, rfl⟩
  · exact reserves index unchanged
  · rw [targetDiffers, ← reserves old oldMem, sameIgnoringCase_congr same, sourceDiffers]

theorem alter (reserves : definition.ReservesPrimaryName) {spec : AlterSpec}
    (spares : ∀ index ∈ addedIndexes spec, SparesPrimaryName index)
    (keeps : KeepsPrimaryName spec) (altered : definition.alter spec = .ok next) :
    next.ReservesPrimaryName := by
  cases spec with
  | addColumns columns position => exact reserves.addColumns spares altered
  | dropColumn name => exact reserves.dropColumn altered
  | modifyColumn column position =>
      exact reserves.replaceColumn (by simpa [addedIndexes] using spares) altered
  | changeColumn old column position =>
      exact reserves.replaceColumn (by simpa [addedIndexes] using spares) altered
  | renameColumn source target => exact reserves.renameColumn altered
  | addIndex index => exact reserves.addIndex (spares index (by simp [addedIndexes])) altered
  | dropPrimaryKey => exact reserves.dropIndex altered
  | dropIndex name => exact reserves.dropIndex altered
  | renameIndex source target => exact reserves.renameIndex keeps altered
  | renameTable target => rwa [← Except.ok.inj altered]
  | other => rwa [← Except.ok.inj altered]

end ReservesPrimaryName

end TableDef

namespace Catalog

open TableDef (ReservesPrimaryName KeepsPrimaryName SparesPrimaryName addedIndexes)

/-- Whether a statement is accepted exactly if a table has a primary key, and then takes the primary
key away and leaves the columns and the unique keys as they are. -/
def RemovesPrimaryKey (catalog : Catalog) (text : String) (name : QualifiedName)
    (definition : TableDef) : Prop :=
  ((catalog.execute text).2 = .ok () ↔ definition.info.primaryKey ≠ none) ∧
    ((catalog.execute text).2 = .ok () →
      ∃ after, (catalog.execute text).1.table? name = some after ∧
        after.columns = definition.columns ∧
        after.info = { definition.info with primaryKey := none })

theorem removesPrimaryKey_iff {catalog : Catalog} {text : String} {ddl : Ddl} {table : TableRef}
    {name : QualifiedName} {definition : TableDef} (parsed : Ddl.parse text = .ok ddl)
    (statementEq : ddl.statement = .alterTable table [.dropPrimaryKey])
    (resolved : ddl.resolve table = .ok name) (found : catalog.table? name = some definition) :
    catalog.RemovesPrimaryKey text name definition ↔ definition.DropsPrimaryKey := by
  have executed := execute_alterTable parsed statementEq rfl resolved found
  unfold RemovesPrimaryKey TableDef.DropsPrimaryKey
  cases dropped : definition.alter .dropPrimaryKey with
  | error cause =>
      rw [settle_map_eq_error dropped] at executed
      rw [TableDef.alter] at dropped
      simp [executed, dropped]
  | ok next =>
      rw [settle_map_eq_ok dropped] at executed
      rw [TableDef.alter] at dropped
      rcases TableDef.dropIndex_eq_ok dropped with ⟨_, _, _, -, -, -, nextEq⟩
      have columnsEq : next.columns = definition.columns := by rw [nextEq]
      simp [executed, dropped, columnsEq]

theorem reservesPrimaryName_executeEach {texts : List String}
    (areAllowed : ∀ text ∈ texts, ∀ ddl, Ddl.parse text = .ok ddl →
      ∀ spec ∈ ddl.statement.changes,
        KeepsPrimaryName spec ∧ ∀ index ∈ addedIndexes spec, SparesPrimaryName index)
    {name : QualifiedName} {definition : TableDef}
    (found : (empty.executeEach texts).table? name = some definition) :
    definition.ReservesPrimaryName := by
  have start : TableDef.empty.ReservesPrimaryName := by
    simp [ReservesPrimaryName, TableDef.empty]
  exact every_executeEach start
    (fun _ _ _ allowed reserves altered => reserves.alter allowed.2 allowed.1 altered)
    areAllowed .empty name definition found

/-- After any statements, accepted or not: a statement that drops the primary key of a table does
so, and nothing else, exactly if its primary key is the only index that is named like one. Then no
two indexes have the same name; and it is so if no statement gives this name to another index or
takes it from the primary key. -/
theorem dropsPrimaryKey_iff (texts : List String) (name : QualifiedName) (definition : TableDef)
    (found : (empty.executeEach texts).table? name = some definition) :
    (definition.ReservesPrimaryName → definition.indexes.Pairwise fun first second =>
      sameIgnoringCase first.name second.name = false) ∧
    (∀ text ddl table, Ddl.parse text = .ok ddl →
      ddl.statement = .alterTable table [.dropPrimaryKey] → ddl.resolve table = .ok name →
      ((empty.executeEach texts).RemovesPrimaryKey text name definition ↔
        definition.ReservesPrimaryName)) ∧
    ((∀ text ∈ texts, ∀ ddl, Ddl.parse text = .ok ddl → ∀ spec ∈ ddl.statement.changes,
        KeepsPrimaryName spec ∧ ∀ index ∈ addedIndexes spec, SparesPrimaryName index) →
      definition.ReservesPrimaryName) := by
  have wellFormed := isWellFormed_executeEach found
  refine ⟨wellFormed.names_distinct, ?_, ?_⟩
  · intro text ddl table parsed statementEq resolved
    rw [removesPrimaryKey_iff parsed statementEq resolved found]
    exact ⟨wellFormed.reservesPrimaryName, wellFormed.dropsPrimaryKey⟩
  · intro areAllowed
    exact reservesPrimaryName_executeEach areAllowed found

/-- A unique key in the way of a primary key that is dropped. -/
theorem dropsPrimaryKey_of_two_keys :
    let texts := ["create table s.t (id int, a int unique, primary key (id))",
      "alter table s.t rename index a to k"]
    let catalog := empty.executeEach texts
    let definition : TableDef := ⟨[⟨"id", false, false, false⟩, ⟨"a", false, false, true⟩],
      [⟨"k", false, true, ["a"]⟩, ⟨"PRIMARY", true, true, ["id"]⟩]⟩
    catalog.table? ⟨"s", "t"⟩ = some definition ∧
      catalog.RemovesPrimaryKey "alter table s.t drop primary key" ⟨"s", "t"⟩ definition := by
  intro texts catalog definition
  have found : catalog.table? ⟨"s", "t"⟩ = some definition := by decide +kernel
  rcases dropsPrimaryKey_iff texts _ _ found with ⟨-, removes, spared⟩
  have parsed : Ddl.parse "alter table s.t drop primary key" =
      .ok ⟨none, .alterTable ⟨some "s", "t"⟩ [.dropPrimaryKey]⟩ := by
    decide +kernel
  refine ⟨found, (removes _ _ _ parsed rfl rfl).mpr (spared ?_)⟩
  have create : Ddl.parse "create table s.t (id int, a int unique, primary key (id))" =
      .ok ⟨none, .createTable ⟨some "s", "t"⟩ false
        [⟨"id", false, false, false⟩, ⟨"a", false, false, true⟩]
        [⟨none, true, true, ["id"]⟩]⟩ := by
    decide +kernel
  have rename : Ddl.parse "alter table s.t rename index a to k" =
      .ok ⟨none, .alterTable ⟨some "s", "t"⟩ [.renameIndex "a" "k"]⟩ := by
    decide +kernel
  intro text textMem ddl parsedText spec specMem
  simp only [texts, List.mem_cons, List.not_mem_nil, or_false] at textMem
  rcases textMem with rfl | rfl
  · rw [create, Except.ok.injEq] at parsedText
    subst parsedText
    simp only [Statement.changes, List.map_cons, List.map_nil, List.mem_cons, List.not_mem_nil,
      or_false] at specMem
    rcases specMem with rfl | rfl
    · exact ⟨trivial, by decide⟩
    · exact ⟨trivial, by decide⟩
  · rw [rename, Except.ok.injEq] at parsedText
    subst parsedText
    rw [List.mem_singleton.mp specMem]
    exact ⟨⟨by decide, by decide⟩, by decide⟩

/-- A unique key gets the name of its column, which is that of the primary key. It is dropped in the
place of the primary key, and also if there is none. -/
theorem exists_unique_key_dropped_as_primary :
    let both := empty.executeEach
      ["create table s.t (\x60primary\x60 int unique, id int primary key)"]
    let single := empty.executeEach ["create table s.t (\x60primary\x60 int unique)"]
    let drop := "alter table s.t drop primary key"
    both.tableInfo ⟨"s", "t"⟩ = .ok ⟨["primary", "id"], some ⟨"PRIMARY", ["id"]⟩,
        [⟨"primary", ["primary"]⟩]⟩ ∧
      (both.execute drop).1.tableInfo ⟨"s", "t"⟩ =
        .ok ⟨["primary", "id"], some ⟨"PRIMARY", ["id"]⟩, []⟩ ∧
      single.tableInfo ⟨"s", "t"⟩ = .ok ⟨["primary"], none, [⟨"primary", ["primary"]⟩]⟩ ∧
      (single.execute drop).2 = .ok () ∧
      (single.execute drop).1.tableInfo ⟨"s", "t"⟩ = .ok ⟨["primary"], none, []⟩ := by
  decide +kernel

end Catalog

end RowLog
