import RowLog.Proofs.NamedTables

/-!
# Refused statements

Most statements take effect as a whole or not at all. To drop or to rename several tables is done
one table after another, and what was done before the first refusal stays done; moreover a table
leaves its old name before its new one is looked at. Here is shown when a statement that is refused
leaves the catalog as it was: exactly if it is of the first kind or came to nothing before it was
refused.
-/

namespace RowLog

open Schema

namespace Catalog

variable {catalog : Catalog} {ddl : Ddl} {text : String} {cause : CatalogError}

/-- Whether a reference, if it is resolved, is to a table that is not there. -/
def IsMissing (catalog : Catalog) (ddl : Ddl) (ref : TableRef) : Prop :=
  ∀ name, ddl.resolve ref = .ok name → catalog.table? name = none

/-- Whether a statement, should it be refused, has changed nothing until then. Only what removes
tables one after another can have: among the tables to be dropped before the refusal there must be
none that is there, and among the renames none that is stopped halfway, and those before must have
put everything back in its place. -/
def IsSparedBy (catalog : Catalog) (ddl : Ddl) : Prop :=
  match ddl.statement with
  | .dropTable tables ifExists =>
      if ifExists then
        ∀ table ∈ tables.takeWhile fun table => (ddl.resolve table).isOk,
          catalog.IsMissing ddl table
      else ∀ table ∈ tables.head?, catalog.IsMissing ddl table
  | .renameTable pairs =>
      ∃ done source target rest, pairs = done ++ (source, target) :: rest ∧
        renameTables ddl catalog done = (catalog, .ok ()) ∧ catalog.IsMissing ddl source
  | _ => True

theorem settle_eq_self {result : Except CatalogError Catalog}
    (refused : (catalog.settle result).2 = .error cause) : (catalog.settle result).1 = catalog := by
  cases result with
  | error _ => rfl
  | ok next => simp [settle] at refused

section Erasing

variable {name : QualifiedName}

@[simp]
theorem table?_eraseTable_self (catalog : Catalog) (name : QualifiedName) :
    (catalog.eraseTable name).table? name = none := by
  simp [table?, held?, eraseTable]

theorem eraseTable_eq_self (missing : catalog.table? name = none) :
    catalog.eraseTable name = catalog := by
  unfold eraseTable
  congr 1
  apply Std.ExtTreeMap.ext_getElem?
  intro other
  rw [Std.ExtTreeMap.getElem?_erase]
  split
  · next same =>
      rw [← Std.LawfulEqCmp.compare_eq_iff_eq.mp same]
      exact (table?_eq_none_iff.mp missing).symm
  · rfl

theorem table?_eraseTable_of_missing {other : QualifiedName}
    (missing : catalog.table? name = none) : (catalog.eraseTable other).table? name = none := by
  by_cases same : other = name
  · subst same
    exact table?_eraseTable_self catalog other
  · rw [table?_eraseTable_of_ne same, missing]

theorem size_eraseTable_lt (present : catalog.table? name ≠ none) :
    (catalog.eraseTable name).tables.size < catalog.tables.size := by
  have named : catalog.tables.contains name := by
    rw [Std.ExtTreeMap.contains_eq_isSome_getElem?]
    exact Option.isSome_iff_ne_none.mpr fun missing => present (table?_eq_none_iff.mpr missing)
  have notEmpty : catalog.tables.size ≠ 0 := by
    intro empty
    rw [← Std.ExtTreeMap.eq_empty_iff_size_eq_zero] at empty
    simp [empty] at named
  simp only [eraseTable, Std.ExtTreeMap.size_erase, named, if_true]
  omega

end Erasing

section Dropping

variable {ifExists : Bool}

/-- A table that is not there does not come back while others are dropped. -/
theorem table?_dropTables_of_missing {tables : List TableRef} {name : QualifiedName}
    (missing : catalog.table? name = none) :
    (dropTables ddl ifExists catalog tables).1.table? name = none := by
  induction tables generalizing catalog with
  | nil => exact missing
  | cons table rest ih =>
      rw [dropTables]
      split
      · exact missing
      · split
        · exact missing
        · exact ih (table?_eraseTable_of_missing missing)

/-- A table that is dropped is gone, whatever becomes of the rest of the statement. -/
theorem dropTables_cons_eq_self_iff {table : TableRef} {rest : List TableRef} {name : QualifiedName}
    (resolved : ddl.resolve table = .ok name)
    (goesOn : ((catalog.table? name).isNone && !ifExists) = false) :
    (dropTables ddl ifExists catalog (table :: rest)).1 = catalog ↔
      catalog.table? name = none ∧ (dropTables ddl ifExists catalog rest).1 = catalog := by
  simp only [dropTables, resolved, goesOn, Bool.false_eq_true, if_false]
  constructor
  · intro unchanged
    have missing : catalog.table? name = none := by
      rw [← unchanged]
      exact table?_dropTables_of_missing (table?_eraseTable_self catalog name)
    rw [eraseTable_eq_self missing] at unchanged
    exact ⟨missing, unchanged⟩
  · rintro ⟨missing, unchanged⟩
    rwa [eraseTable_eq_self missing]

theorem dropTables_ifExists_eq_self_iff {tables : List TableRef} :
    (dropTables ddl true catalog tables).1 = catalog ↔
      ∀ table ∈ tables.takeWhile fun table => (ddl.resolve table).isOk,
        catalog.IsMissing ddl table := by
  induction tables with
  | nil => simp [dropTables]
  | cons table rest ih =>
      cases resolved : ddl.resolve table with
      | error _ => simp [dropTables, resolved, Except.isOk, Except.toBool]
      | ok name =>
          rw [dropTables_cons_eq_self_iff resolved (by simp), ih]
          simp [resolved, IsMissing, Except.isOk, Except.toBool]

theorem dropTables_eq_self_iff {tables : List TableRef}
    (refused : (dropTables ddl false catalog tables).2 = .error cause) :
    (dropTables ddl false catalog tables).1 = catalog ↔
      ∀ table ∈ tables.head?, catalog.IsMissing ddl table := by
  cases tables with
  | nil => simp [dropTables]
  | cons table rest =>
      simp only [List.head?_cons, Option.mem_some_iff, forall_eq']
      cases resolved : ddl.resolve table with
      | error _ => simp [dropTables, resolved, IsMissing]
      | ok name =>
          cases found : catalog.table? name with
          | none => simp [dropTables, resolved, IsMissing, found]
          | some definition =>
              rw [dropTables_cons_eq_self_iff resolved (by simp [found])]
              simp [resolved, IsMissing, found]

end Dropping

section Renaming

theorem renameTables_append (done rest : List (TableRef × TableRef)) {middle : Catalog}
    (renamed : renameTables ddl catalog done = (middle, .ok ())) :
    renameTables ddl catalog (done ++ rest) = renameTables ddl middle rest := by
  induction done generalizing catalog with
  | nil =>
      simp only [renameTables, Prod.mk.injEq, and_true] at renamed
      rw [renamed, List.nil_append]
  | cons pair done ih =>
      rcases pair with ⟨source, target⟩
      simp only [List.cons_append, renameTables] at renamed ⊢
      split at renamed
      · simp at renamed
      · split at renamed
        · simp at renamed
        · split at renamed
          · simp at renamed
          · exact ih renamed

/-- Renames that are refused are refused at the first one that cannot be done; either its table is
not there, or its table is and the new name is not resolved. -/
theorem exists_refused_rename {pairs : List (TableRef × TableRef)}
    (refused : (renameTables ddl catalog pairs).2 = .error cause) :
    ∃ done source target rest middle, pairs = done ++ (source, target) :: rest ∧
      renameTables ddl catalog done = (middle, .ok ()) ∧
      (middle.IsMissing ddl source ∧ (renameTables ddl catalog pairs).1 = middle ∨
        ∃ name, middle.table? name ≠ none ∧
          (renameTables ddl catalog pairs).1 = middle.eraseTable name) := by
  induction pairs generalizing catalog with
  | nil => simp [renameTables] at refused
  | cons pair rest ih =>
      rcases pair with ⟨source, target⟩
      cases sourceEq : ddl.resolve source with
      | error _ =>
          refine ⟨[], source, target, rest, catalog, rfl, rfl, .inl ⟨?_, ?_⟩⟩
          · simp [IsMissing, sourceEq]
          · simp [renameTables, sourceEq]
      | ok sourceName =>
          cases found : catalog.held? sourceName with
          | none =>
              refine ⟨[], source, target, rest, catalog, rfl, rfl, .inl ⟨?_, ?_⟩⟩
              · simp [IsMissing, sourceEq, table?, found]
              · simp [renameTables, sourceEq, found]
          | some entry =>
              cases targetEq : ddl.resolve target with
              | error _ =>
                  refine ⟨[], source, target, rest, catalog, rfl, rfl, .inr ⟨sourceName, ?_, ?_⟩⟩
                  · simp [table?, found]
                  · simp [renameTables, sourceEq, found, targetEq]
              | ok targetName =>
                  have first (others : List (TableRef × TableRef)) :
                      renameTables ddl catalog ((source, target) :: others) =
                        renameTables ddl
                          ((catalog.eraseTable sourceName).setEntry targetName entry) others := by
                    simp [renameTables, sourceEq, found, targetEq]
                  rw [first] at refused ⊢
                  rcases ih refused with ⟨done, source', target', rest', middle, rfl, doneEq, stop⟩
                  exact ⟨(source, target) :: done, source', target', rest', middle, rfl,
                    (first done).trans doneEq, stop⟩

/-- Renames never make more tables. -/
theorem size_renameTables_le (ddl : Ddl) (catalog : Catalog) (pairs : List (TableRef × TableRef)) :
    (renameTables ddl catalog pairs).1.tables.size ≤ catalog.tables.size := by
  induction pairs generalizing catalog with
  | nil => exact Nat.le_refl _
  | cons pair rest ih =>
      rcases pair with ⟨source, target⟩
      simp only [renameTables]
      split
      · exact Nat.le_refl _
      · next sourceName _ =>
          cases found : catalog.held? sourceName with
          | none => simp
          | some entry =>
              have there : catalog.table? sourceName ≠ none := by simp [table?, found]
              have fewer := size_eraseTable_lt there
              simp only
              split
              · exact Nat.le_of_lt fewer
              · next targetName _ =>
                  have later := ih ((catalog.eraseTable sourceName).setEntry targetName entry)
                  have added := Std.ExtTreeMap.size_insert_le
                    (t := (catalog.eraseTable sourceName).tables) (k := targetName) (v := entry)
                  simp only [setEntry, addDatabase] at later ⊢
                  omega

theorem renameTables_eq_self_of_missing {source target : TableRef}
    (missing : catalog.IsMissing ddl source) (rest : List (TableRef × TableRef)) :
    (renameTables ddl catalog ((source, target) :: rest)).1 = catalog := by
  rw [renameTables]
  cases sourceEq : ddl.resolve source with
  | error _ => rfl
  | ok sourceName => simp [table?_eq_none_iff.mp (missing sourceName sourceEq)]

theorem renameTables_eq_self_iff {pairs : List (TableRef × TableRef)}
    (refused : (renameTables ddl catalog pairs).2 = .error cause) :
    (renameTables ddl catalog pairs).1 = catalog ↔
      ∃ done source target rest, pairs = done ++ (source, target) :: rest ∧
        renameTables ddl catalog done = (catalog, .ok ()) ∧ catalog.IsMissing ddl source := by
  constructor
  · intro unchanged
    rcases exists_refused_rename refused with
      ⟨done, source, target, rest, middle, pairsEq, doneEq, ⟨missing, final⟩ | ⟨name, there, final⟩⟩
    · have same : middle = catalog := final.symm.trans unchanged
      subst same
      exact ⟨done, source, target, rest, pairsEq, doneEq, missing⟩
    · -- A table that was lost on the way is not made up for: there are fewer tables than before.
      have fewer := size_eraseTable_lt there
      have kept : middle.tables.size ≤ catalog.tables.size := by
        simpa [doneEq] using size_renameTables_le ddl catalog done
      rw [← final, unchanged] at fewer
      omega
  · rintro ⟨done, source, target, rest, rfl, doneEq, missing⟩
    rw [renameTables_append done _ doneEq]
    exact renameTables_eq_self_of_missing missing rest

end Renaming

theorem apply_eq_self_iff (refused : (catalog.apply ddl text).2 = .error cause) :
    (catalog.apply ddl text).1 = catalog ↔ catalog.IsSparedBy ddl := by
  unfold apply IsSparedBy at *
  cases statementEq : ddl.statement with
  | alterDatabase database => simp
  | truncateTable table => simp
  | dropTable tables ifExists =>
      rw [statementEq] at refused
      cases ifExists with
      | true => exact dropTables_ifExists_eq_self_iff
      | false => simpa using dropTables_eq_self_iff refused
  | renameTable pairs =>
      rw [statementEq] at refused
      exact renameTables_eq_self_iff refused
  | createDatabase _ _ | dropDatabase _ _ | createTable _ _ _ _ | createTableLike _ _ _
  | createIndex _ _ | dropIndex _ _ | alterTable _ _ =>
      rw [statementEq] at refused
      simpa using settle_eq_self refused

/-- A schema change that is refused leaves all databases and tables as they were, unless it had
already dropped or renamed tables, or had taken a table from its old name. -/
theorem execute_eq_self_iff (catalog : Catalog) (text : String) (cause : CatalogError)
    (refused : (catalog.execute text).2 = .error cause) :
    (catalog.execute text).1 = catalog ↔
      ∀ ddl, Ddl.parse text = .ok ddl → catalog.IsSparedBy ddl := by
  unfold execute at *
  cases parsed : Ddl.parse text with
  | error _ => simp
  | ok ddl =>
      rw [parsed] at refused
      simpa using apply_eq_self_iff refused

/-- A table is renamed forth and back before a table that is not there is to be renamed. -/
theorem execute_eq_self_iff_of_rename_back :
    let catalog := (empty.execute "create table s.a (x int primary key)").1
    let text := "rename table s.a to s.b, s.b to s.a, s.c to s.d"
    (catalog.execute text).2 = .error (.tableNotFound ⟨"s", "c"⟩) ∧
      ((catalog.execute text).1 = catalog ↔
        ∀ ddl, Ddl.parse text = .ok ddl → catalog.IsSparedBy ddl) := by
  intro catalog text
  have refused : (catalog.execute text).2 = .error (.tableNotFound ⟨"s", "c"⟩) := by
    decide +kernel
  exact ⟨refused, execute_eq_self_iff catalog text _ refused⟩

/-- A rename to a name without a database and a drop of two tables, of which one is not there, are
refused, and the table that was there is lost. -/
theorem exists_table_lost_of_refused :
    let catalog := (empty.execute "create table s.a (x int primary key)").1
    let rename := catalog.execute "rename table s.a to b"
    let drop := catalog.execute "drop table s.a, s.b"
    catalog.table? ⟨"s", "a"⟩ ≠ none ∧
      rename.2 = .error (.invalid "b" (.malformed .noDatabase)) ∧
      rename.1.table? ⟨"s", "a"⟩ = none ∧
      drop.2 = .error (.tableNotFound ⟨"s", "b"⟩) ∧
      drop.1.table? ⟨"s", "a"⟩ = none := by
  decide +kernel

end Catalog

end RowLog
