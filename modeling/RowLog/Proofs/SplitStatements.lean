import RowLog.Catalog.Basic
import RowLog.Proofs.Lists
import RowLog.Proofs.StatementTokens

/-!
# Statements that are split

A statement that drops or renames several tables is carried as one statement for each of them, with
the names written out in full. These statements are routed as they are, without being split again,
and to execute them in turn comes to the same as to execute the statement that they were split from:
also where a table is renamed that an earlier part has given its name, and where a part is refused.
Main statement: `Catalog.executeInTurn_of_route`.
-/

namespace RowLog

open Schema

namespace Schema.Ddl

variable {ddl : Ddl} {text : String} {routed : List RoutedChange}

/-- Whether a change is the one by which a single table is dropped. -/
def DropsAs (ddl : Ddl) (ifExists : Bool) (table : TableRef) (change : RoutedChange) : Prop :=
  ∃ name, ddl.resolve table = .ok name ∧ change = .ofTable name (dropText ifExists name)

/-- Whether a change is the one by which a single table is renamed. -/
def RenamesAs (ddl : Ddl) (pair : TableRef × TableRef) (change : RoutedChange) : Prop :=
  ∃ source target, ddl.resolve pair.1 = .ok source ∧ ddl.resolve pair.2 = .ok target ∧
    change = .ofTable target (renameText source target)

/-- What is carried for a statement: its own text, or a change for each of its tables. -/
inductive Carries (ddl : Ddl) (text : String) : List RoutedChange → Prop
  | whole {change : RoutedChange} (isText : change.statement = text) : Carries ddl text [change]
  | drops {tables : List TableRef} {ifExists : Bool} {routed : List RoutedChange}
      (statement_eq : ddl.statement = .dropTable tables ifExists)
      (each : List.Forall₂ (ddl.DropsAs ifExists) tables routed) : Carries ddl text routed
  | renames {pairs : List (TableRef × TableRef)} {routed : List RoutedChange}
      (statement_eq : ddl.statement = .renameTable pairs)
      (each : List.Forall₂ ddl.RenamesAs pairs routed) : Carries ddl text routed

theorem carries_of_whole {table : TableRef}
    (routesEq : (do return [.ofTable (← ddl.resolve table) text]) = Except.ok routed) :
    ddl.Carries text routed := by
  rcases bind_eq_ok_iff.mp routesEq with ⟨name, -, routedEq⟩
  cases routedEq
  exact .whole rfl

theorem carries_of_drops {tables : List TableRef} {ifExists : Bool}
    (statementEq : ddl.statement = .dropTable tables ifExists)
    (routesEq : (tables.mapM fun table => do
      let name ← ddl.resolve table
      return RoutedChange.ofTable name (dropText ifExists name)) = .ok routed) :
    ddl.Carries text routed := by
  refine .drops statementEq ((mapM_eq_ok_iff.mp routesEq).imp ?_)
  intro table change changeEq
  rcases bind_eq_ok_iff.mp changeEq with ⟨name, resolved, same⟩
  exact ⟨name, resolved, (Except.ok.inj same).symm⟩

theorem carries_of_renames {pairs : List (TableRef × TableRef)}
    (statementEq : ddl.statement = .renameTable pairs)
    (routesEq : (pairs.mapM fun (source, target) => do
      let sourceName ← ddl.resolve source
      let targetName ← ddl.resolve target
      return RoutedChange.ofTable targetName (renameText sourceName targetName)) = .ok routed) :
    ddl.Carries text routed := by
  refine .renames statementEq ((mapM_eq_ok_iff.mp routesEq).imp ?_)
  intro pair change changeEq
  rcases bind_eq_ok_iff.mp changeEq with ⟨source, sourceEq, changeEq⟩
  rcases bind_eq_ok_iff.mp changeEq with ⟨target, targetEq, same⟩
  exact ⟨source, target, sourceEq, targetEq, (Except.ok.inj same).symm⟩

theorem carries_of_routes (routesEq : ddl.routes text = .ok routed) : ddl.Carries text routed := by
  cases statementEq : ddl.statement with
  | createDatabase _ _ | alterDatabase _ | dropDatabase _ _ =>
      simp only [routes, statementEq, Except.ok.injEq] at routesEq
      subst routesEq
      exact .whole rfl
  | createTable _ _ _ _ | createTableLike _ _ _ | truncateTable _ | createIndex _ _
  | dropIndex _ _ | alterTable _ _ =>
      simp only [routes, statementEq] at routesEq
      exact carries_of_whole routesEq
  | dropTable tables ifExists =>
      rcases tables with _ | ⟨first, _ | ⟨second, rest⟩⟩ <;>
        simp only [routes, statementEq] at routesEq
      · exact carries_of_drops statementEq routesEq
      · exact carries_of_whole routesEq
      · exact carries_of_drops statementEq routesEq
  | renameTable pairs =>
      rcases pairs with _ | ⟨first, _ | ⟨second, rest⟩⟩ <;>
        simp only [routes, statementEq] at routesEq
      · exact carries_of_renames statementEq routesEq
      · exact carries_of_whole routesEq
      · exact carries_of_renames statementEq routesEq

/-- What is carried for a statement is not split again. -/
theorem Carries.route_statement (carried : ddl.Carries text routed)
    (routedEq : route text = .ok routed) {change : RoutedChange} (changeMem : change ∈ routed) :
    route change.statement = .ok [change] := by
  cases carried with
  | whole isText => rw [List.mem_singleton.mp changeMem, isText, routedEq]
  | drops statementEq each =>
      rcases exists_mem_of_forall₂ each changeMem with ⟨table, -, name, -, rfl⟩
      exact route_dropText _ name
  | renames statementEq each =>
      rcases exists_mem_of_forall₂ each changeMem with ⟨pair, -, source, target, -, -, rfl⟩
      exact route_renameText source target

end Schema.Ddl

namespace Catalog

variable {catalog : Catalog} {ddl : Ddl}

/-- The catalog after schema changes up to the first that is refused, and whether one is. -/
def executeInTurn : Catalog → List String → Catalog × Except CatalogError Unit
  | catalog, [] => (catalog, .ok ())
  | catalog, text :: rest =>
      match catalog.execute text with
      | (next, .ok ()) => next.executeInTurn rest
      | refused => refused

/-- Where only success matters, the catalog after a refusal is left out. -/
theorem executeAll_eq (catalog : Catalog) (texts : List String) :
    catalog.executeAll texts =
      (catalog.executeInTurn texts).2.map fun _ => (catalog.executeInTurn texts).1 := by
  induction texts generalizing catalog with
  | nil => rfl
  | cons text rest ih =>
      rw [executeAll, executeInTurn]
      rcases catalog.execute text with ⟨next, cause | ⟨⟩⟩
      · rfl
      · exact ih next

theorem executeInTurn_singleton (text : String) :
    catalog.executeInTurn [text] = catalog.execute text := by
  rw [executeInTurn]
  rcases catalog.execute text with ⟨next, cause | ⟨⟩⟩ <;> rfl

theorem execute_dropText (ifExists : Bool) (name : QualifiedName) :
    catalog.execute (dropText ifExists name) =
      if (catalog.table? name).isNone && !ifExists then (catalog, .error (.tableNotFound name))
      else (catalog.eraseTable name, .ok ()) := by
  simp [execute, Ddl.parse_dropText, apply, dropTables]

theorem execute_renameText (source target : QualifiedName) :
    catalog.execute (renameText source target) =
      catalog.settle ((catalog.lookup source).map
        ((catalog.eraseTable source).setTable target)) := by
  simp only [execute, Ddl.parse_renameText, apply, renameTables, Ddl.resolve_ofName,
    setEntry_eq_setTable, lookup, table?]
  cases catalog.held? source with
  | none => rfl
  | some entry => rfl

theorem executeInTurn_of_drops {tables : List TableRef} {ifExists : Bool}
    {routed : List RoutedChange} (each : List.Forall₂ (ddl.DropsAs ifExists) tables routed)
    (catalog : Catalog) :
    catalog.executeInTurn (routed.map RoutedChange.statement) =
      dropTables ddl ifExists catalog tables := by
  -- The rest is executed in the catalog that the first part leaves, so the catalog is arbitrary.
  induction each generalizing catalog with
  | nil => rfl
  | cons first _ ih =>
      rcases first with ⟨name, resolved, rfl⟩
      rw [List.map_cons, executeInTurn, dropTables, resolved]
      simp only [RoutedChange.ofTable, execute_dropText]
      by_cases refused : ((catalog.table? name).isNone && !ifExists) = true
      · simp only [refused, if_true]
      · simp only [refused]
        exact ih _

theorem executeInTurn_of_renames {pairs : List (TableRef × TableRef)} {routed : List RoutedChange}
    (each : List.Forall₂ ddl.RenamesAs pairs routed) (catalog : Catalog) :
    catalog.executeInTurn (routed.map RoutedChange.statement) =
      renameTables ddl catalog pairs := by
  induction each generalizing catalog with
  | nil => rfl
  | @cons pair _ _ _ first _ ih =>
      rcases pair with ⟨sourceRef, targetRef⟩
      rcases first with ⟨source, target, sourceEq, targetEq, rfl⟩
      rw [List.map_cons, executeInTurn, renameTables, sourceEq]
      simp only [RoutedChange.ofTable, execute_renameText, lookup, table?]
      cases catalog.held? source with
      | none => rfl
      | some entry =>
          simp only [targetEq, setEntry_eq_setTable]
          exact ih _

/-- The statements that a text is carried as are routed as they are, and to execute them in turn,
up to the first that is refused, comes to the same as to execute the text. -/
theorem executeInTurn_of_route (text : String) (routed : List RoutedChange)
    (routedEq : route text = .ok routed) :
    (∀ change ∈ routed, (∃ ddl, Ddl.parse change.statement = .ok ddl) ∧
        route change.statement = .ok [change]) ∧
      ∀ catalog : Catalog,
        catalog.executeInTurn (routed.map RoutedChange.statement) = catalog.execute text := by
  rcases bind_eq_ok_iff.mp routedEq with ⟨ddl, parsed, routesEq⟩
  have carried := Ddl.carries_of_routes routesEq
  constructor
  · intro change changeMem
    have again := carried.route_statement routedEq changeMem
    rcases bind_eq_ok_iff.mp again with ⟨part, partEq, -⟩
    exact ⟨⟨part, partEq⟩, again⟩
  · intro catalog
    have executed : catalog.execute text = catalog.apply ddl text := by
      simp only [execute, parsed]
    cases carried with
    | whole isText => rw [List.map_singleton, isText, executeInTurn_singleton]
    | drops statementEq each =>
        rw [executeInTurn_of_drops each, executed]
        simp only [apply, statementEq]
    | renames statementEq each =>
        rw [executeInTurn_of_renames each, executed]
        simp only [apply, statementEq]

/-- Two tables swap their names by way of a third one, whose name would end the statement and open
a comment. -/
theorem executeInTurn_of_route_of_swap :
    let text := "use `my``shop`; rename table a to `;/*`, b to a, `;/*` to `b`"
    let routed : List RoutedChange :=
      [⟨"my`shop", some ";/*", "RENAME TABLE `my``shop`.`a` TO `my``shop`.`;/*`"⟩,
        ⟨"my`shop", some "a", "RENAME TABLE `my``shop`.`b` TO `my``shop`.`a`"⟩,
        ⟨"my`shop", some "b", "RENAME TABLE `my``shop`.`;/*` TO `my``shop`.`b`"⟩]
    route text = .ok routed ∧
      (∀ change ∈ routed, (∃ ddl, Ddl.parse change.statement = .ok ddl) ∧
        route change.statement = .ok [change]) ∧
      ∀ catalog : Catalog,
        catalog.executeInTurn (routed.map RoutedChange.statement) = catalog.execute text := by
  intro text routed
  have routedEq : route text = .ok routed := by
    decide +kernel
  exact ⟨routedEq, executeInTurn_of_route text routed routedEq⟩

end Catalog

end RowLog
