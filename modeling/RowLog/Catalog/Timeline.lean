import RowLog.Catalog.Basic

/-!
# The versions of the tables

A `Timeline` answers what a table looked like at any time of the window. It is built by applying all
schema changes in order: those before the window only lead up to it, and for those in the window the
table is recorded as each change left it. A change in the window that is refused is recorded as
well, so that the streams that carry it can be told.
-/

namespace RowLog

open Schema

/-- The structure of a table from some time on; none while it does not exist. -/
structure TableVersion where
  stamp : Timestamp
  info : Option TableInfo
  deriving DecidableEq

/-- A schema change that was refused, with the reason. -/
structure RefusedChange where
  statement : String
  cause : CatalogError
  deriving DecidableEq

/-- The versions of the tables over a window. -/
structure Timeline where
  catalog : Catalog
  /-- The versions of each table that a change in the window names, oldest first. -/
  versions : Std.ExtTreeMap QualifiedName (List TableVersion) QualifiedName.compare
  /-- The first refused change of each time in the window. -/
  refusals : Std.ExtTreeMap Timestamp RefusedChange

namespace Timeline

def ofCatalog (catalog : Catalog) : Timeline := ⟨catalog, ∅, ∅⟩

def currentInfo (timeline : Timeline) (name : QualifiedName) : Option TableInfo :=
  (timeline.catalog.tableInfo name).toOption

/-- Records a change that was refused, unless one of the same time is recorded. -/
def refuse (timeline : Timeline) (change : SchemaChange) (cause : CatalogError) : Timeline :=
  { timeline with
    refusals := timeline.refusals.insertIfNew change.stamp ⟨change.statement, cause⟩ }

/-- Records how a table was before all changes, unless some version of it is recorded. -/
def recordBefore (timeline : Timeline) (name : QualifiedName) : Timeline :=
  { timeline with
    versions := timeline.versions.insertIfNew name
      [⟨Int64.minValue, timeline.currentInfo name⟩] }

def recordAfter (stamp : Timestamp) (timeline : Timeline) (name : QualifiedName) : Timeline :=
  let earlier := timeline.versions.getD name []
  { timeline with
    versions := timeline.versions.insert name
      (earlier ++ [⟨stamp, timeline.currentInfo name⟩]) }

/-- Applies a change before the window, where it does not matter whether it is refused. -/
def lead (timeline : Timeline) (change : SchemaChange) : Timeline :=
  { timeline with catalog := (timeline.catalog.execute change.statement).1 }

def replay (timeline : Timeline) (change : SchemaChange) : Timeline :=
  match Ddl.parse change.statement >>= Ddl.tables with
  | .error cause => timeline.refuse change cause
  | .ok names =>
      let before := names.foldl recordBefore timeline
      let (catalog, result) := before.catalog.execute change.statement
      let after := { before with catalog }
      match result with
      | .error cause => after.refuse change cause
      | .ok () => names.foldl (recordAfter change.stamp) after

/-- Applies a change, where the window opens at `start`. -/
def step (start : Timestamp) (timeline : Timeline) (change : SchemaChange) : Timeline :=
  if start ≤ change.stamp then timeline.replay change else timeline.lead change

/-- The timeline of changes in the order of their commits, where the window opens at `start`. -/
def build (catalog : Catalog) (changes : List SchemaChange) (start : Timestamp) : Timeline :=
  changes.foldl (step start) (ofCatalog catalog)

/-- What is known of a table at a given time. A table that no change in the window names is now as
it was all the time. -/
def tableInfo (timeline : Timeline) (name : QualifiedName) (stamp : Timestamp) :
    Except CatalogError TableInfo :=
  match timeline.versions[name]? with
  | none => timeline.catalog.tableInfo name
  | some versions =>
      match (versions.takeWhile fun version => version.stamp ≤ stamp).getLast? with
      | some ⟨_, some info⟩ => .ok info
      | _ => .error (.tableMissing name)

def checkReplayed (timeline : Timeline) (stamp : Timestamp) : Except CatalogError Unit :=
  match timeline.refusals[stamp]? with
  | some refusal => .error (.notApplied stamp refusal.statement refusal.cause)
  | none => .ok ()

end Timeline

end RowLog
