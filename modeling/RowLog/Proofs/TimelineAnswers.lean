import Mathlib.Data.List.TakeWhile
import RowLog.Catalog.Timeline
import RowLog.Proofs.NamedTables

/-!
# The answers of a timeline

A timeline keeps versions of those tables only that a schema change in the window names, and takes
everything else from the last catalog. `Catalog.follow` is what its answers are compared with: a
copy of the first catalog, on which the changes up to a time are executed. Both agree at every time
and for every table, provided that the changes are in the order of their times and that none which
is refused has had part of its effect. A change is reported as refused exactly if it was.
-/

namespace RowLog

open Schema

namespace Catalog

/-- The catalog after schema changes, with what a refused one has done before it was refused. -/
def follow (catalog : Catalog) (changes : List SchemaChange) : Catalog :=
  changes.foldl (fun catalog change => (catalog.execute change.statement).1) catalog

/-- Whether each of some schema changes, in its turn, is accepted or leaves the catalog as it is. -/
def Settles : Catalog → List SchemaChange → Prop
  | _, [] => True
  | catalog, change :: rest =>
      ((catalog.execute change.statement).2 = .ok () ∨
          (catalog.execute change.statement).1 = catalog) ∧
        (catalog.execute change.statement).1.Settles rest

/-- Those of some schema changes that are refused in their turn. -/
def refused : Catalog → List SchemaChange → List SchemaChange
  | _, [] => []
  | catalog, change :: rest =>
      match catalog.execute change.statement with
      | (next, .ok ()) => next.refused rest
      | (next, .error _) => change :: next.refused rest

variable {catalog : Catalog}

theorem follow_append (catalog : Catalog) (first second : List SchemaChange) :
    catalog.follow (first ++ second) = (catalog.follow first).follow second := by
  simp only [follow, List.foldl_append]

theorem follow_singleton (catalog : Catalog) (change : SchemaChange) :
    catalog.follow [change] = (catalog.execute change.statement).1 := rfl

theorem refused_append (catalog : Catalog) (first second : List SchemaChange) :
    catalog.refused (first ++ second) =
      catalog.refused first ++ (catalog.follow first).refused second := by
  induction first generalizing catalog with
  | nil => rfl
  | cons change rest ih =>
      have later : catalog.follow (change :: rest) =
          (catalog.execute change.statement).1.follow rest := rfl
      rw [List.cons_append, refused, refused, later]
      split <;> simp_all

theorem refused_of_accepted {change : SchemaChange}
    (accepted : (catalog.execute change.statement).2 = .ok ()) : catalog.refused [change] = [] := by
  rcases execution : catalog.execute change.statement with ⟨next, result⟩
  have resultEq : result = .ok () := by simpa [execution] using accepted
  simp only [refused, execution, resultEq]

theorem refused_of_error {change : SchemaChange} {cause : CatalogError}
    (isRefused : (catalog.execute change.statement).2 = .error cause) :
    catalog.refused [change] = [change] := by
  rcases execution : catalog.execute change.statement with ⟨next, result⟩
  have resultEq : result = .error cause := by simpa [execution] using isRefused
  simp only [refused, execution, resultEq]

theorem refused_subset (catalog : Catalog) (changes : List SchemaChange) :
    catalog.refused changes ⊆ changes := by
  induction changes generalizing catalog with
  | nil => simp [refused]
  | cons change rest ih =>
      rw [refused]
      split
      · exact List.Subset.trans (ih _) (List.subset_cons_self change rest)
      · exact List.cons_subset_cons change (ih _)

/-- What is known of a table, if there is anything to be known. -/
def info? (catalog : Catalog) (name : QualifiedName) : Option TableInfo :=
  (catalog.tableInfo name).toOption

/-- The answer about a table of which something may be known. -/
def answer (name : QualifiedName) : Option TableInfo → Except CatalogError TableInfo
  | some info => .ok info
  | none => .error (.tableMissing name)

theorem tableInfo_eq_answer (catalog : Catalog) (name : QualifiedName) :
    catalog.tableInfo name = answer name (catalog.info? name) := by
  unfold info? tableInfo
  split
  · split <;> rfl
  · rfl

end Catalog

/-- The structure in the last of some versions up to a given time. -/
def versionAt (versions : List TableVersion) (stamp : Timestamp) : Option TableInfo :=
  (versions.takeWhile fun version => version.stamp ≤ stamp).getLast?.bind TableVersion.info

section Versions

variable {versions : List TableVersion} {info : Option TableInfo} {latest stamp : Timestamp}

theorem versionAt_singleton (info : Option TableInfo) (stamp : Timestamp) :
    versionAt [⟨Int64.minValue, info⟩] stamp = info := by
  simp [versionAt]

theorem versionAt_append_of_le (bounded : ∀ version ∈ versions, version.stamp ≤ latest)
    (reached : latest ≤ stamp) : versionAt (versions ++ [⟨latest, info⟩]) stamp = info := by
  have all : ∀ version ∈ versions ++ [⟨latest, info⟩], decide (version.stamp ≤ stamp) = true := by
    intro version versionMem
    rcases List.mem_append.mp versionMem with earlier | new
    · simpa using Int64.le_trans (bounded version earlier) reached
    · simpa [List.mem_singleton.mp new] using reached
  rw [versionAt, List.takeWhile_eq_self_iff.mpr all]
  simp

theorem versionAt_append_of_lt (early : stamp < latest) :
    versionAt (versions ++ [⟨latest, info⟩]) stamp = versionAt versions stamp := by
  have late : ¬latest ≤ stamp := Int64.not_le.mpr early
  rw [versionAt, versionAt, List.takeWhile_append]
  split
  · next whole =>
      have all := (List.takeWhile_prefix _).eq_of_length whole
      simp [late, all]
  · rfl

end Versions

namespace Timeline

variable {timeline : Timeline} {name : QualifiedName} {stamp : Timestamp}

/-- The versions of a table, where one of which none are recorded has always been as it is now. -/
def history (timeline : Timeline) (name : QualifiedName) : List TableVersion :=
  timeline.versions.getD name [⟨Int64.minValue, timeline.currentInfo name⟩]

theorem tableInfo_eq_versionAt (timeline : Timeline) (name : QualifiedName) (stamp : Timestamp) :
    timeline.tableInfo name stamp =
      Catalog.answer name (versionAt (timeline.history name) stamp) := by
  rw [history, Std.ExtTreeMap.getD_eq_getD_getElem?]
  unfold tableInfo
  cases recorded : timeline.versions[name]? with
  | none =>
      rw [Option.getD_none, versionAt_singleton]
      exact timeline.catalog.tableInfo_eq_answer name
  | some versions =>
      rw [Option.getD_some]
      dsimp only [versionAt]
      cases (versions.takeWhile fun version => version.stamp ≤ stamp).getLast? with
      | none => rfl
      | some version =>
          rcases version with ⟨_, info⟩
          cases info <;> rfl

@[simp]
theorem history_recordBefore (timeline : Timeline) (other : QualifiedName) :
    (timeline.recordBefore other).history name = timeline.history name := by
  simp only [history, recordBefore, currentInfo, Std.ExtTreeMap.getD_insertIfNew,
    Std.LawfulEqCmp.compare_eq_iff_eq]
  split
  · next fresh =>
      rcases fresh with ⟨rfl, notMem⟩
      rw [Std.ExtTreeMap.getD_eq_fallback notMem]
  · rfl

theorem history_foldl_recordBefore (timeline : Timeline) (names : List QualifiedName) :
    (names.foldl recordBefore timeline).history name = timeline.history name := by
  induction names generalizing timeline with
  | nil => rfl
  | cons other rest ih => rw [List.foldl_cons, ih, history_recordBefore]

theorem catalog_foldl_recordBefore (timeline : Timeline) (names : List QualifiedName) :
    (names.foldl recordBefore timeline).catalog = timeline.catalog := by
  induction names generalizing timeline with
  | nil => rfl
  | cons other rest ih =>
      rw [List.foldl_cons, ih]
      rfl

theorem refusals_foldl_recordBefore (timeline : Timeline) (names : List QualifiedName) :
    (names.foldl recordBefore timeline).refusals = timeline.refusals := by
  induction names generalizing timeline with
  | nil => rfl
  | cons other rest ih =>
      rw [List.foldl_cons, ih]
      rfl

theorem mem_versions_foldl_recordBefore (timeline : Timeline) (names : List QualifiedName) :
    name ∈ (names.foldl recordBefore timeline).versions ↔
      name ∈ names ∨ name ∈ timeline.versions := by
  induction names generalizing timeline with
  | nil => simp
  | cons other rest ih =>
      rw [List.foldl_cons, ih]
      simp only [recordBefore, Std.ExtTreeMap.mem_insertIfNew, Std.LawfulEqCmp.compare_eq_iff_eq,
        List.mem_cons]
      tauto

theorem catalog_foldl_recordAfter (timeline : Timeline) (names : List QualifiedName) :
    (names.foldl (recordAfter stamp) timeline).catalog = timeline.catalog := by
  induction names generalizing timeline with
  | nil => rfl
  | cons other rest ih =>
      rw [List.foldl_cons, ih]
      rfl

theorem refusals_foldl_recordAfter (timeline : Timeline) (names : List QualifiedName) :
    (names.foldl (recordAfter stamp) timeline).refusals = timeline.refusals := by
  induction names generalizing timeline with
  | nil => rfl
  | cons other rest ih =>
      rw [List.foldl_cons, ih]
      rfl

theorem getElem?_recordAfter (timeline : Timeline) (other : QualifiedName) :
    (timeline.recordAfter stamp other).versions[name]? =
      if other = name then
        some (timeline.versions.getD name [] ++ [⟨stamp, timeline.currentInfo name⟩])
      else timeline.versions[name]? := by
  simp only [recordAfter, Std.ExtTreeMap.getElem?_insert, Std.LawfulEqCmp.compare_eq_iff_eq]
  split
  · next same => rw [same]
  · rfl

/-- A table that is recorded once after a change has one version more, and any other table has the
versions that it had. -/
theorem getElem?_foldl_recordAfter (timeline : Timeline) {names : List QualifiedName}
    (distinct : names.Nodup) :
    (names.foldl (recordAfter stamp) timeline).versions[name]? =
      if name ∈ names then
        some (timeline.versions.getD name [] ++ [⟨stamp, timeline.currentInfo name⟩])
      else timeline.versions[name]? := by
  induction names generalizing timeline with
  | nil => simp
  | cons other rest ih =>
      rw [List.nodup_cons] at distinct
      rw [List.foldl_cons, ih _ distinct.2, getElem?_recordAfter,
        Std.ExtTreeMap.getD_eq_getD_getElem?, getElem?_recordAfter]
      by_cases same : other = name
      · subst same
        simp [distinct.1]
      · have differs : name ≠ other := fun equal => same equal.symm
        simp only [same, if_false, List.mem_cons, differs, false_or,
          Std.ExtTreeMap.getD_eq_getD_getElem?]
        rfl

section Replay

variable {change : SchemaChange} {names : List QualifiedName}

theorem nodup_of_namedTables {text : String} (named : namedTables text = .ok names) :
    names.Nodup := by
  rcases bind_eq_ok_iff.mp named with ⟨ddl, _, tablesEq⟩
  rw [Ddl.tables, bind_eq_ok_iff] at tablesEq
  rcases tablesEq with ⟨resolved, _, dupsEq⟩
  rw [← Except.ok.inj dupsEq]
  exact nodup_eraseDups resolved

/-- A change that is accepted adds a version to the history of every table that it names. -/
theorem replay_of_accepted (named : namedTables change.statement = .ok names)
    (accepted : (timeline.catalog.execute change.statement).2 = .ok ()) :
    (timeline.replay change).catalog = (timeline.catalog.execute change.statement).1 ∧
      (timeline.replay change).refusals = timeline.refusals ∧
      ∀ name, (timeline.replay change).history name =
        if name ∈ names then
          timeline.history name ++
            [⟨change.stamp, (timeline.catalog.execute change.statement).1.info? name⟩]
        else timeline.history name := by
  have frame := Catalog.agreesOutside_execute named timeline.catalog
  rcases execution : timeline.catalog.execute change.statement with ⟨next, result⟩
  rw [execution] at accepted frame
  subst accepted
  have replayEq : timeline.replay change =
      names.foldl (recordAfter change.stamp)
        { names.foldl recordBefore timeline with catalog := next } := by
    unfold replay
    rw [show Ddl.parse change.statement >>= Ddl.tables = .ok names from named]
    simp only [catalog_foldl_recordBefore, execution]
  refine ⟨?_, ?_, ?_⟩
  · rw [replayEq, catalog_foldl_recordAfter]
  · rw [replayEq, refusals_foldl_recordAfter]
    exact refusals_foldl_recordBefore timeline names
  · intro name
    have before : (names.foldl recordBefore timeline).history name = timeline.history name :=
      history_foldl_recordBefore timeline names
    rw [replayEq, history, Std.ExtTreeMap.getD_eq_getD_getElem?,
      getElem?_foldl_recordAfter _ (nodup_of_namedTables named)]
    split
    · next isNamed =>
        have recorded : name ∈ (names.foldl recordBefore timeline).versions :=
          (mem_versions_foldl_recordBefore timeline names).mpr (Or.inl isNamed)
        rw [Option.getD_some, ← before, history]
        simp only [Std.ExtTreeMap.getD_eq_getD_getElem?,
          Std.ExtTreeMap.getElem?_eq_some_getElem recorded]
        rfl
    · next notNamed =>
        have current : next.info? name = timeline.currentInfo name :=
          congrArg Except.toOption (Catalog.tableInfo_congr (frame name notNamed))
        rw [← before, history, Std.ExtTreeMap.getD_eq_getD_getElem?]
        simp only [currentInfo, catalog_foldl_recordAfter, catalog_foldl_recordBefore] at current ⊢
        rw [← current]
        rfl

/-- A change that is refused, and has no effect, is noted and changes nothing else. -/
theorem replay_of_refused {cause : CatalogError}
    (isRefused : (timeline.catalog.execute change.statement).2 = .error cause)
    (unchanged : (timeline.catalog.execute change.statement).1 = timeline.catalog) :
    (timeline.replay change).catalog = timeline.catalog ∧
      (∀ stamp, stamp ∈ (timeline.replay change).refusals ↔
        stamp = change.stamp ∨ stamp ∈ timeline.refusals) ∧
      ∀ name, (timeline.replay change).history name = timeline.history name := by
  have noted (cause : CatalogError) (stamp : Timestamp) :
      stamp ∈ (timeline.refuse change cause).refusals ↔
        stamp = change.stamp ∨ stamp ∈ timeline.refusals := by
    simp only [refuse, Std.ExtTreeMap.mem_insertIfNew, Std.compare_eq_iff_eq]
    rw [eq_comm (a := stamp)]
  rcases execution : timeline.catalog.execute change.statement with ⟨next, result⟩
  rw [execution] at isRefused unchanged
  subst isRefused unchanged
  unfold replay
  cases named : Ddl.parse change.statement >>= Ddl.tables with
  | error reason => exact ⟨rfl, noted reason, fun _ => rfl⟩
  | ok names =>
      simp only [catalog_foldl_recordBefore, execution]
      refine ⟨rfl, ?_, ?_⟩
      · intro stamp
        rw [← noted cause]
        simp only [refuse, refusals_foldl_recordBefore]
      · intro name
        rw [← history_foldl_recordBefore timeline names]
        simp only [history, refuse, currentInfo, catalog_foldl_recordBefore]

end Replay

/-- Whether a timeline has taken in some changes of a catalog, and answers for them. -/
structure Follows (timeline : Timeline) (catalog : Catalog) (start : Timestamp)
    (done : List SchemaChange) : Prop where
  catalog_eq : timeline.catalog = catalog.follow done
  versionAt_eq : ∀ name stamp, versionAt (timeline.history name) stamp =
    (catalog.follow (done.filter fun change =>
      change.stamp < start || change.stamp ≤ stamp)).info? name
  bounded : ∀ name latest, (∀ change ∈ done, change.stamp ≤ latest) →
    ∀ version ∈ timeline.history name, version.stamp ≤ latest
  versions_eq : (∀ change ∈ done, change.stamp < start) → timeline.versions = ∅
  mem_refusals_iff : ∀ stamp, stamp ∈ timeline.refusals ↔
    start ≤ stamp ∧ ∃ change ∈ catalog.refused done, change.stamp = stamp

variable {catalog : Catalog} {start : Timestamp} {done : List SchemaChange}
  {change : SchemaChange}

theorem history_of_versions_eq (none : timeline.versions = ∅) (name : QualifiedName) :
    timeline.history name = [⟨Int64.minValue, timeline.catalog.info? name⟩] := by
  rw [history, none, Std.ExtTreeMap.getD_empty]
  rfl

theorem follows_ofCatalog (catalog : Catalog) (start : Timestamp) :
    (ofCatalog catalog).Follows catalog start [] where
  catalog_eq := rfl
  versionAt_eq name stamp := by
    rw [history_of_versions_eq rfl, versionAt_singleton]
    rfl
  bounded name latest _ version versionMem := by
    rw [history_of_versions_eq rfl, List.mem_singleton] at versionMem
    simp [versionMem]
  versions_eq _ := rfl
  mem_refusals_iff stamp := by simp [ofCatalog, Catalog.refused]

theorem filter_eq_self_of_reached {latest stamp : Timestamp}
    (ordered : ∀ change ∈ done, change.stamp ≤ latest)
    (reached : latest < start ∨ latest ≤ stamp) :
    (done.filter fun change => change.stamp < start || change.stamp ≤ stamp) = done := by
  rw [List.filter_eq_self]
  intro earlier earlierMem
  have before := ordered earlier earlierMem
  simp only [Bool.or_eq_true, decide_eq_true_eq]
  rcases reached with inHistory | inWindow
  · exact Or.inl (Int64.lt_of_le_of_lt before inHistory)
  · exact Or.inr (Int64.le_trans before inWindow)

theorem Follows.lead (follows : timeline.Follows catalog start done)
    (ordered : ∀ earlier ∈ done, earlier.stamp ≤ change.stamp) (old : change.stamp < start) :
    (timeline.lead change).Follows catalog start (done ++ [change]) := by
  have allOld : ∀ earlier ∈ done, earlier.stamp < start :=
    fun earlier earlierMem => Int64.lt_of_le_of_lt (ordered earlier earlierMem) old
  have none : (timeline.lead change).versions = ∅ := follows.versions_eq allOld
  have catalogEq : (timeline.lead change).catalog = catalog.follow (done ++ [change]) := by
    rw [Catalog.follow_append, ← follows.catalog_eq]
    rfl
  refine ⟨catalogEq, ?_, ?_, fun _ => none, ?_⟩
  · intro name stamp
    have reached : ∀ earlier ∈ done ++ [change], earlier.stamp ≤ change.stamp := by
      simpa [or_imp, forall_and] using ordered
    rw [history_of_versions_eq none, versionAt_singleton, catalogEq,
      filter_eq_self_of_reached reached (Or.inl old)]
  · intro name latest _ version versionMem
    rw [history_of_versions_eq none, List.mem_singleton] at versionMem
    simp [versionMem]
  · intro stamp
    have sameRefusals : (timeline.lead change).refusals = timeline.refusals := rfl
    rw [sameRefusals, follows.mem_refusals_iff, Catalog.refused_append]
    apply and_congr_right
    intro inWindow
    constructor
    · rintro ⟨earlier, earlierMem, stampEq⟩
      exact ⟨earlier, List.mem_append_left _ earlierMem, stampEq⟩
    · rintro ⟨other, otherMem, stampEq⟩
      rcases List.mem_append.mp otherMem with earlierMem | isNew
      · exact ⟨other, earlierMem, stampEq⟩
      · have same := List.mem_singleton.mp (Catalog.refused_subset _ _ isNew)
        rw [← stampEq, same] at inWindow
        exact absurd old (Int64.not_lt.mpr inWindow)

/-- A change that has no effect on the catalog has none on what is answered for any time. -/
theorem Follows.filter_of_unchanged (follows : timeline.Follows catalog start done)
    (ordered : ∀ earlier ∈ done, earlier.stamp ≤ change.stamp)
    (unchanged : (timeline.catalog.execute change.statement).1 = timeline.catalog)
    (stamp : Timestamp) :
    catalog.follow ((done ++ [change]).filter fun change =>
        change.stamp < start || change.stamp ≤ stamp) =
      catalog.follow (done.filter fun change => change.stamp < start || change.stamp ≤ stamp) := by
  rw [List.filter_append]
  by_cases reached : change.stamp < start ∨ change.stamp ≤ stamp
  · rw [filter_eq_self_of_reached ordered reached, Catalog.follow_append, ← follows.catalog_eq]
    simpa [reached, Catalog.follow_singleton] using unchanged
  · simp [reached]

theorem Follows.replay_refused (follows : timeline.Follows catalog start done)
    (ordered : ∀ earlier ∈ done, earlier.stamp ≤ change.stamp) (inWindow : start ≤ change.stamp)
    {cause : CatalogError}
    (isRefused : (timeline.catalog.execute change.statement).2 = .error cause)
    (unchanged : (timeline.catalog.execute change.statement).1 = timeline.catalog) :
    (timeline.replay change).Follows catalog start (done ++ [change]) := by
  rcases replay_of_refused isRefused unchanged with ⟨catalogEq, refusalsIff, historyEq⟩
  refine ⟨?_, ?_, ?_, ?_, ?_⟩
  · rw [catalogEq, Catalog.follow_append, ← follows.catalog_eq, Catalog.follow_singleton, unchanged]
  · intro name stamp
    rw [historyEq, follows.versionAt_eq, follows.filter_of_unchanged ordered unchanged]
  · intro name latest bound version versionMem
    rw [historyEq] at versionMem
    have earlierBound : ∀ earlier ∈ done, earlier.stamp ≤ latest :=
      fun earlier earlierMem => bound earlier (by simp [earlierMem])
    exact follows.bounded name latest earlierBound version versionMem
  · intro allOld
    exact absurd (allOld change (by simp)) (Int64.not_lt.mpr inWindow)
  · intro stamp
    have added : (catalog.follow done).refused [change] = [change] := by
      rw [← follows.catalog_eq]
      exact Catalog.refused_of_error isRefused
    rw [refusalsIff, follows.mem_refusals_iff, Catalog.refused_append, added]
    constructor
    · rintro (rfl | ⟨reached, other, otherMem, stampEq⟩)
      · exact ⟨inWindow, change, by simp, rfl⟩
      · exact ⟨reached, other, by simp [otherMem], stampEq⟩
    · rintro ⟨reached, other, otherMem, stampEq⟩
      rcases List.mem_append.mp otherMem with earlierMem | isNew
      · exact Or.inr ⟨reached, other, earlierMem, stampEq⟩
      · left
        rw [← stampEq, List.mem_singleton.mp isNew]

theorem Follows.replay_accepted (follows : timeline.Follows catalog start done)
    (ordered : ∀ earlier ∈ done, earlier.stamp ≤ change.stamp) (inWindow : start ≤ change.stamp)
    (accepted : (timeline.catalog.execute change.statement).2 = .ok ()) :
    (timeline.replay change).Follows catalog start (done ++ [change]) := by
  rcases Catalog.exists_namedTables_of_execute accepted with ⟨names, named⟩
  rcases replay_of_accepted named accepted with ⟨catalogEq, refusalsEq, historyEq⟩
  have frame := Catalog.agreesOutside_execute named timeline.catalog
  have followEq : catalog.follow (done ++ [change]) =
      (timeline.catalog.execute change.statement).1 := by
    rw [Catalog.follow_append, ← follows.catalog_eq, Catalog.follow_singleton]
  refine ⟨catalogEq.trans followEq.symm, ?_, ?_, ?_, ?_⟩
  · intro name stamp
    rw [historyEq, List.filter_append]
    have bound := follows.bounded name change.stamp ordered
    by_cases reached : change.stamp ≤ stamp
    · -- All changes have been reached, so the answer is the state after the last of them.
      have known : (done.filter fun change =>
          change.stamp < start || change.stamp ≤ stamp) = done :=
        filter_eq_self_of_reached ordered (Or.inr reached)
      have whole : done ++ [change].filter (fun change =>
          change.stamp < start || change.stamp ≤ stamp) = done ++ [change] := by
        simp [reached]
      rw [known, whole, followEq]
      split
      · exact versionAt_append_of_le bound reached
      · next notNamed =>
          have before := follows.versionAt_eq name stamp
          rw [known, ← follows.catalog_eq] at before
          rw [before]
          exact congrArg Except.toOption (Catalog.tableInfo_congr (frame name notNamed)).symm
    · have late : stamp < change.stamp := Int64.not_le.mp reached
      have notOld : ¬change.stamp < start := Int64.not_lt.mpr inWindow
      have unknown : [change].filter (fun change =>
          change.stamp < start || change.stamp ≤ stamp) = [] := by
        simp [reached, notOld]
      rw [unknown, List.append_nil, ← follows.versionAt_eq]
      split
      · exact versionAt_append_of_lt late
      · rfl
  · intro name latest bound version versionMem
    have earlierBound : ∀ earlier ∈ done, earlier.stamp ≤ latest :=
      fun earlier earlierMem => bound earlier (by simp [earlierMem])
    rw [historyEq] at versionMem
    split at versionMem
    · rcases List.mem_append.mp versionMem with earlierMem | isNew
      · exact follows.bounded name latest earlierBound version earlierMem
      · rw [List.mem_singleton.mp isNew]
        exact bound change (by simp)
    · exact follows.bounded name latest earlierBound version versionMem
  · intro allOld
    exact absurd (allOld change (by simp)) (Int64.not_lt.mpr inWindow)
  · intro stamp
    have nothing : (catalog.follow done).refused [change] = [] := by
      rw [← follows.catalog_eq]
      exact Catalog.refused_of_accepted accepted
    rw [refusalsEq, follows.mem_refusals_iff, Catalog.refused_append, nothing, List.append_nil]

theorem Follows.step (follows : timeline.Follows catalog start done)
    (ordered : ∀ earlier ∈ done, earlier.stamp ≤ change.stamp)
    (settles : (catalog.follow done).Settles [change]) :
    (timeline.step start change).Follows catalog start (done ++ [change]) := by
  unfold Timeline.step
  split
  · next inWindow =>
      rw [← follows.catalog_eq] at settles
      cases result : (timeline.catalog.execute change.statement).2 with
      | ok done => exact follows.replay_accepted ordered inWindow result
      | error cause =>
          have unchanged : (timeline.catalog.execute change.statement).1 = timeline.catalog := by
            simpa [result] using settles.1
          exact follows.replay_refused ordered inWindow result unchanged
  · next notInWindow => exact follows.lead ordered (Int64.not_le.mp notInWindow)

theorem Follows.foldl_step (changes : List SchemaChange)
    (follows : timeline.Follows catalog start done)
    (ordered : (done ++ changes).Pairwise fun first second => first.stamp ≤ second.stamp)
    (settles : (catalog.follow done).Settles changes) :
    (changes.foldl (Timeline.step start) timeline).Follows catalog start (done ++ changes) := by
  induction changes generalizing timeline done with
  | nil => simpa using follows
  | cons change rest ih =>
      have before : ∀ earlier ∈ done, earlier.stamp ≤ change.stamp :=
        fun earlier earlierMem => (List.pairwise_append.mp ordered).2.2 earlier earlierMem change
          (by simp)
      have followEq : (catalog.follow (done ++ [change])) =
          ((catalog.follow done).execute change.statement).1 := by
        rw [Catalog.follow_append, Catalog.follow_singleton]
      rw [List.append_cons] at ordered ⊢
      apply ih (follows.step before ⟨settles.1, trivial⟩) ordered
      rw [followEq]
      exact settles.2

/-- A timeline answers for every table and every time as a copy of its first catalog does on which
the changes before the window, and those up to that time, are executed in order; and it reports that
a change of a time was refused exactly if one in the window was. -/
theorem tableInfo_build_and_checkReplayed_build (catalog : Catalog) (changes : List SchemaChange)
    (start : Timestamp)
    (ordered : changes.Pairwise fun first second => first.stamp ≤ second.stamp)
    (settles : catalog.Settles changes) :
    (∀ name stamp, (build catalog changes start).tableInfo name stamp =
      (catalog.follow (changes.filter fun change =>
        change.stamp < start || change.stamp ≤ stamp)).tableInfo name) ∧
    ∀ stamp, (∃ cause, (build catalog changes start).checkReplayed stamp = .error cause) ↔
      ∃ change ∈ catalog.refused changes, change.stamp = stamp ∧ start ≤ stamp := by
  have follows : (build catalog changes start).Follows catalog start changes :=
    (follows_ofCatalog catalog start).foldl_step changes ordered settles
  constructor
  · intro name stamp
    rw [tableInfo_eq_versionAt, follows.versionAt_eq, Catalog.tableInfo_eq_answer]
  · intro stamp
    have reported : (∃ cause, (build catalog changes start).checkReplayed stamp = .error cause) ↔
        stamp ∈ (build catalog changes start).refusals := by
      rw [Std.ExtTreeMap.mem_iff_isSome_getElem?, checkReplayed]
      cases (build catalog changes start).refusals[stamp]? <;> simp
    rw [reported, follows.mem_refusals_iff]
    constructor
    · rintro ⟨inWindow, change, changeMem, stampEq⟩
      exact ⟨change, changeMem, stampEq, inWindow⟩
    · rintro ⟨change, changeMem, stampEq, inWindow⟩
      exact ⟨inWindow, change, changeMem, stampEq⟩

/-- A table is renamed at the start of the window, at the same time a change of its old name is
refused, and later the old name is given to another table. -/
theorem tableInfo_build_and_checkReplayed_build_of_renamed :
    let changes : List SchemaChange :=
      [⟨1, "CREATE TABLE shop.orders (id INT PRIMARY KEY)"⟩,
        ⟨5, "RENAME TABLE shop.orders TO shop.archive"⟩, ⟨5, "DROP TABLE shop.orders"⟩,
        ⟨9, "CREATE TABLE shop.orders (code INT)"⟩]
    (changes.Pairwise fun first second => first.stamp ≤ second.stamp) ∧
      Catalog.empty.Settles changes ∧
      (∀ name stamp, (build .empty changes 5).tableInfo name stamp =
        (Catalog.empty.follow (changes.filter fun change =>
          change.stamp < 5 || change.stamp ≤ stamp)).tableInfo name) ∧
      ∀ stamp, (∃ cause, (build .empty changes 5).checkReplayed stamp = .error cause) ↔
        ∃ change ∈ Catalog.empty.refused changes, change.stamp = stamp ∧ 5 ≤ stamp := by
  intro changes
  have ordered : changes.Pairwise fun first second => first.stamp ≤ second.stamp := by
    decide
  have unchanged (catalog : Catalog) (missing : (catalog.table? ⟨"shop", "orders"⟩).isNone = true) :
      (catalog.execute "DROP TABLE shop.orders").1 = catalog := by
    have parsed : Ddl.parse "DROP TABLE shop.orders" =
        .ok ⟨none, .dropTable [⟨some "shop", "orders"⟩] false⟩ := by
      decide +kernel
    simp [Catalog.execute, parsed, Catalog.apply, Catalog.dropTables, Ddl.resolve, missing]
  have settles : Catalog.empty.Settles changes := by
    refine ⟨Or.inl ?_, Or.inl ?_, Or.inr (unchanged _ ?_), Or.inl ?_, trivial⟩
    · decide +kernel
    · decide +kernel
    · decide +kernel
    · decide +kernel
  exact ⟨ordered, settles, tableInfo_build_and_checkReplayed_build .empty changes 5 ordered settles⟩

end Timeline

end RowLog
