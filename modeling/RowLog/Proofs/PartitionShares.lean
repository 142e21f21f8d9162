import RowLog.Partition
import RowLog.Proofs.Lists

/-!
# The share of a stream in a log

Splitting a log gives every stream its share of each record, in the order of the log: of a row batch
the events of its table, as one batch if there are any, and of a schema change the statements that
are routed to it. Records outside the window have no shares, nor have streams that do not pass the
filter. Main statements: `Partition.sameStreams_foldl_addRecord`, `Partition.records_appendAll` and
`Partition.changes_foldl_addRecord`.
-/

namespace RowLog

namespace StreamId

/-- What belongs to a stream of a record. -/
def partOf (stream : StreamId) : Record → List Record
  | .schemaChange change =>
      match Schema.route change.statement with
      | .ok routes =>
          (routes.filter fun routed => ⟨routed.schema, routed.table⟩ = stream).map fun routed =>
            .schemaChange ⟨change.stamp, routed.statement⟩
      | .error _ => []
  | .rowBatch batch =>
      match batch.events.filter fun event => Partition.streamOf event = stream with
      | [] => []
      | events => [.rowBatch ⟨batch.stamp, events⟩]

end StreamId

namespace Scope

variable {scope : Scope}

/-- What a stream gets of a record. -/
def share (scope : Scope) (stream : StreamId) (record : Record) : List Record :=
  if scope.window.contains record.stamp && scope.filter.allows stream.schema stream.table then
    stream.partOf record
  else []

/-- The schema change that is remembered of a record, if it is one that can be routed and does not
lie after the window. -/
def remembered? (scope : Scope) : Record → Option SchemaChange
  | .schemaChange change =>
      if !scope.window.endsBefore change.stamp && (Schema.route change.statement).isOk then
        some change
      else none
  | .rowBatch _ => none

/-- The statements of a schema change that pass the filter, with the streams they are routed to. -/
def changeEntries (scope : Scope) (change : SchemaChange) : List (StreamId × Record) :=
  match Schema.route change.statement with
  | .ok routes =>
      (routes.filter fun routed => scope.filter.allows routed.schema routed.table).map fun routed =>
        (⟨routed.schema, routed.table⟩, .schemaChange ⟨change.stamp, routed.statement⟩)
  | .error _ => []

/-- The batches into which a row batch is split, with their streams. -/
def batchEntries (scope : Scope) (batch : RowBatch) : List (StreamId × Record) :=
  let kept := batch.events.filter fun event => scope.filter.allows event.schema (some event.table)
  (kept.map Partition.streamOf).eraseDups.map fun stream =>
    (stream,
      .rowBatch ⟨batch.stamp, kept.filter fun event => Partition.streamOf event = stream⟩)

/-- What the streams get of a record, in the order in which they get it. -/
def entries (scope : Scope) (record : Record) : List (StreamId × Record) :=
  if scope.window.contains record.stamp then
    match record with
    | .schemaChange change => scope.changeEntries change
    | .rowBatch batch => scope.batchEntries batch
  else []

theorem entries_of_outside (record : Record)
    (outside : ¬scope.window.contains record.stamp = true) : scope.entries record = [] :=
  if_neg outside

theorem entries_schemaChange {change : SchemaChange}
    (inside : scope.window.contains change.stamp = true) :
    scope.entries (.schemaChange change) = scope.changeEntries change :=
  if_pos inside

theorem entries_rowBatch {batch : RowBatch}
    (inside : scope.window.contains batch.stamp = true) :
    scope.entries (.rowBatch batch) = scope.batchEntries batch :=
  if_pos inside

/-- What is meant for one stream among what is meant for all. -/
def entriesOf (stream : StreamId) (entries : List (StreamId × Record)) : List Record :=
  (entries.filter fun entry => entry.1 = stream).map Prod.snd

theorem entriesOf_map_of_nodup {streams : List StreamId} (nodup : streams.Nodup)
    (stream : StreamId) (record : StreamId → Record) :
    entriesOf stream (streams.map fun other => (other, record other)) =
      if stream ∈ streams then [record stream] else [] := by
  induction streams with
  | nil => simp [entriesOf]
  | cons first rest ih =>
      rw [List.nodup_cons] at nodup
      have later := ih nodup.2
      simp only [entriesOf, List.map_cons, List.filter_cons] at later ⊢
      by_cases same : first = stream
      · rw [← same, if_neg nodup.1] at later
        simp [← same, later]
      · simp [same, Ne.symm same, later]

theorem entriesOf_changeEntries (stream : StreamId) (change : SchemaChange) :
    entriesOf stream (scope.changeEntries change) =
      if scope.filter.allows stream.schema stream.table then stream.partOf (.schemaChange change)
      else [] := by
  simp only [changeEntries, StreamId.partOf]
  cases Schema.route change.statement with
  | error cause => simp [entriesOf]
  | ok routes =>
      have admitted := filter_and_of_const
        (fun routed : Schema.RoutedChange =>
          decide ((⟨routed.schema, routed.table⟩ : StreamId) = stream))
        (fun routed => scope.filter.allows routed.schema routed.table)
        (scope.filter.allows stream.schema stream.table)
        (fun routed same => by simp [← of_decide_eq_true same]) routes
      simp only [entriesOf, List.filter_map, List.map_map, List.filter_filter]
      simp only [Function.comp_def, admitted]
      split <;> rfl

theorem entriesOf_batchEntries (stream : StreamId) (batch : RowBatch) :
    entriesOf stream (scope.batchEntries batch) =
      if scope.filter.allows stream.schema stream.table then stream.partOf (.rowBatch batch)
      else [] := by
  have admitted := filter_and_of_const
    (fun event => decide (Partition.streamOf event = stream))
    (fun event => scope.filter.allows event.schema (some event.table))
    (scope.filter.allows stream.schema stream.table)
    (fun event same => by simp [← of_decide_eq_true same, Partition.streamOf]) batch.events
  have present : stream ∈ ((batch.events.filter fun event =>
        scope.filter.allows event.schema (some event.table)).map Partition.streamOf).eraseDups ↔
      (if scope.filter.allows stream.schema stream.table then
        batch.events.filter fun event => Partition.streamOf event = stream else []) ≠ [] := by
    rw [← admitted, List.mem_eraseDups, List.mem_map, Ne, List.filter_eq_nil_iff]
    simp [and_comm, and_assoc]
  simp only [batchEntries, StreamId.partOf]
  rw [entriesOf_map_of_nodup (nodup_eraseDups _) stream]
  simp only [present, List.filter_filter, admitted]
  cases scope.filter.allows stream.schema stream.table with
  | false => simp
  | true => cases batch.events.filter fun event => Partition.streamOf event = stream <;> simp

theorem entriesOf_entries (scope : Scope) (stream : StreamId) (record : Record) :
    entriesOf stream (scope.entries record) = scope.share stream record := by
  by_cases inside : scope.window.contains record.stamp = true
  · cases record with
    | schemaChange change =>
        rw [entries_schemaChange inside, entriesOf_changeEntries, share, inside, Bool.true_and]
    | rowBatch batch =>
        rw [entries_rowBatch inside, entriesOf_batchEntries, share, inside, Bool.true_and]
  · rw [entries_of_outside record inside]
    simp [entriesOf, share, inside]

theorem entriesOf_flatMap_entries (scope : Scope) (stream : StreamId) (log : List Record) :
    entriesOf stream (log.flatMap scope.entries) = log.flatMap (scope.share stream) := by
  induction log with
  | nil => rfl
  | cons record rest ih =>
      have first := entriesOf_entries scope stream record
      simp only [entriesOf] at first ih ⊢
      simp [first, ih]

theorem entriesOf_ne_nil {entries : List (StreamId × Record)} {entry : StreamId × Record}
    (entryMem : entry ∈ entries) : entriesOf entry.1 entries ≠ [] := by
  intro nothing
  have mine : entry.2 ∈ entriesOf entry.1 entries :=
    List.mem_map_of_mem (List.mem_filter.mpr ⟨entryMem, by simp⟩)
  rw [nothing] at mine
  contradiction

end Scope

namespace Partition

variable {scope : Scope} {budget : Nat}

@[simp]
theorem passesOf_empty (stream : StreamId) : empty.passesOf stream = .empty := by
  simp [passesOf, empty]

theorem passesOf_append (partition : Partition) (stream other : StreamId) (record : Record) :
    (partition.append budget stream record).passesOf other =
      if stream = other then (partition.passesOf stream).append budget record
      else partition.passesOf other := by
  simp [passesOf, append, Std.ExtTreeMap.getD_insert]

theorem mem_streams_append (partition : Partition) (stream other : StreamId) (record : Record) :
    other ∈ (partition.append budget stream record).streams ↔
      stream = other ∨ other ∈ partition.streams := by
  simp [append, Std.ExtTreeMap.mem_insert]

/-- Gives streams what is meant for them. -/
def appendAll (budget : Nat) (partition : Partition) (entries : List (StreamId × Record)) :
    Partition :=
  entries.foldl (fun partition entry => partition.append budget entry.1 entry.2) partition

theorem records_appendAll (budget : Nat) (entries : List (StreamId × Record))
    (partition : Partition) (stream : StreamId) :
    ((partition.appendAll budget entries).passesOf stream).records =
      (partition.passesOf stream).records ++ Scope.entriesOf stream entries := by
  induction entries generalizing partition with
  | nil => simp [appendAll, Scope.entriesOf]
  | cons first rest ih =>
      have later := ih (partition.append budget first.1 first.2)
      rw [passesOf_append] at later
      simp only [appendAll, List.foldl_cons, Scope.entriesOf, List.filter_cons] at later ⊢
      rw [later]
      by_cases same : first.1 = stream
      · simp [← same]
      · simp [same]

theorem mem_streams_appendAll (entries : List (StreamId × Record)) (partition : Partition)
    (stream : StreamId) :
    stream ∈ (partition.appendAll budget entries).streams ↔
      stream ∈ partition.streams ∨ Scope.entriesOf stream entries ≠ [] := by
  induction entries generalizing partition with
  | nil => simp [appendAll, Scope.entriesOf]
  | cons first rest ih =>
      have later := ih (partition.append budget first.1 first.2)
      rw [mem_streams_append] at later
      simp only [appendAll, List.foldl_cons, Scope.entriesOf, List.filter_cons] at later ⊢
      rw [later]
      by_cases same : first.1 = stream
      · simp [same]
      · simp [same]

/-- Whether the streams of two partitions hold the same, and their working files too. -/
structure SameStreams (first second : Partition) : Prop where
  streams : first.streams = second.streams
  working : first.working = second.working

namespace SameStreams

variable {first second third : Partition}

theorem refl (partition : Partition) : SameStreams partition partition := ⟨rfl, rfl⟩

theorem trans (before : SameStreams first second) (after : SameStreams second third) :
    SameStreams first third :=
  ⟨before.streams.trans after.streams, before.working.trans after.working⟩

theorem symm (same : SameStreams first second) : SameStreams second first :=
  ⟨same.streams.symm, same.working.symm⟩

theorem append (same : SameStreams first second) (budget : Nat) (stream : StreamId)
    (record : Record) :
    SameStreams (first.append budget stream record) (second.append budget stream record) := by
  rcases first with ⟨streams, working, changes, stats⟩
  rcases second with ⟨otherStreams, otherWorking, otherChanges, otherStats⟩
  rcases same with ⟨rfl, rfl⟩
  exact ⟨rfl, rfl⟩

theorem appendAll (same : SameStreams first second) (budget : Nat)
    (entries : List (StreamId × Record)) :
    SameStreams (first.appendAll budget entries) (second.appendAll budget entries) := by
  induction entries generalizing first second with
  | nil => exact same
  | cons entry rest ih => exact ih (same.append budget entry.1 entry.2)

theorem passesOf_eq (same : SameStreams first second) (stream : StreamId) :
    first.passesOf stream = second.passesOf stream := by
  rw [passesOf, passesOf, same.streams]

end SameStreams

theorem sameStreams_foldl_addRouted (scope : Scope) (stamp : Timestamp)
    (routes : List Schema.RoutedChange) (partition : Partition) :
    SameStreams (routes.foldl (addRouted scope stamp) partition)
      (partition.appendAll scope.budget
        ((routes.filter fun routed => scope.filter.allows routed.schema routed.table).map
          fun routed =>
            (⟨routed.schema, routed.table⟩, .schemaChange ⟨stamp, routed.statement⟩))) := by
  induction routes generalizing partition with
  | nil => exact .refl partition
  | cons routed rest ih =>
      rw [List.foldl_cons, List.filter_cons, addRouted]
      cases scope.filter.allows routed.schema routed.table with
      | true => exact ih _
      | false =>
          have dropped : SameStreams (partition.drop 1) partition := ⟨rfl, rfl⟩
          exact (ih _).trans (dropped.appendAll _ _)

theorem sameStreams_addChange_of_outside (partition : Partition) {change : SchemaChange}
    (outside : ¬scope.window.contains change.stamp = true) :
    SameStreams (partition.addChange scope change) partition := by
  rw [addChange]
  split
  next => exact ⟨rfl, rfl⟩
  next notLate =>
    have old : change.stamp < scope.window.start := by
      by_contra notOld
      exact outside (by simp [Window.contains, Int64.not_lt.mp notOld, notLate])
    split
    next => exact ⟨rfl, rfl⟩
    next =>
      simp only [if_pos old]
      exact ⟨rfl, rfl⟩

theorem sameStreams_addChange (partition : Partition) (change : SchemaChange) :
    SameStreams (partition.addChange scope change)
      (partition.appendAll scope.budget (scope.entries (.schemaChange change))) := by
  by_cases inside : scope.window.contains change.stamp = true
  · rw [Scope.entries_schemaChange inside, Scope.changeEntries, addChange]
    simp only [Window.contains, Bool.and_eq_true, decide_eq_true_eq, Bool.not_eq_true'] at inside
    rw [if_neg (by simp [inside.2])]
    cases Schema.route change.statement with
    | error cause => exact ⟨rfl, rfl⟩
    | ok routes =>
        have remembered : SameStreams (partition.remember change) partition := ⟨rfl, rfl⟩
        have routed := sameStreams_foldl_addRouted scope change.stamp routes
          (partition.remember change)
        simp only [if_neg (Int64.not_lt.mpr inside.1)]
        exact routed.trans (remembered.appendAll _ _)
  · rw [Scope.entries_of_outside (.schemaChange change) inside]
    exact sameStreams_addChange_of_outside partition inside

theorem sameStreams_addBatch (partition : Partition) (batch : RowBatch) :
    SameStreams (partition.addBatch scope batch)
      (partition.appendAll scope.budget (scope.entries (.rowBatch batch))) := by
  by_cases inside : scope.window.contains batch.stamp = true
  · have dropped (count : Nat) : SameStreams (partition.drop count) partition := ⟨rfl, rfl⟩
    have added := (dropped (batch.events.filter fun event =>
      !scope.filter.allows event.schema (some event.table)).length).appendAll scope.budget
        (scope.batchEntries batch)
    rw [Scope.entries_rowBatch inside, addBatch, if_pos inside, List.partition_eq_filter_filter]
    simp only [Scope.batchEntries, Partition.appendAll, List.foldl_map] at added ⊢
    exact added
  · rw [Scope.entries_of_outside (.rowBatch batch) inside, addBatch, if_neg inside]
    exact ⟨rfl, rfl⟩

theorem sameStreams_addRecord (scope : Scope) (partition : Partition) (record : Record) :
    SameStreams (partition.addRecord scope record)
      (partition.appendAll scope.budget (scope.entries record)) := by
  have counted : SameStreams partition.countRead partition := ⟨rfl, rfl⟩
  cases record with
  | schemaChange change =>
      exact (sameStreams_addChange _ change).trans (counted.appendAll _ _)
  | rowBatch batch =>
      exact (sameStreams_addBatch _ batch).trans (counted.appendAll _ _)

theorem sameStreams_foldl_addRecord (scope : Scope) (log : List Record) (partition : Partition) :
    SameStreams (log.foldl (addRecord scope) partition)
      (partition.appendAll scope.budget (log.flatMap scope.entries)) := by
  induction log generalizing partition with
  | nil => exact .refl partition
  | cons record rest ih =>
      have first := sameStreams_addRecord scope partition record
      have later := (ih (partition.addRecord scope record)).trans (first.appendAll _ _)
      simpa [appendAll] using later

/-! ### The schema changes that are remembered -/

theorem changes_foldl_addRouted (stamp : Timestamp) (routes : List Schema.RoutedChange)
    (partition : Partition) :
    (routes.foldl (addRouted scope stamp) partition).changes = partition.changes := by
  induction routes generalizing partition with
  | nil => rfl
  | cons routed rest ih =>
      rw [List.foldl_cons, ih, addRouted]
      split <;> rfl

theorem changes_addChange (partition : Partition) (change : SchemaChange) :
    (partition.addChange scope change).changes =
      partition.changes ++ (scope.remembered? (.schemaChange change)).toList := by
  cases late : scope.window.endsBefore change.stamp with
  | true => simp [addChange, Scope.remembered?, late, drop]
  | false =>
      simp only [addChange, Scope.remembered?, late]
      cases Schema.route change.statement with
      | error cause => exact (List.append_nil _).symm
      | ok routes =>
          simp only [Bool.false_eq_true, if_false]
          split
          · rfl
          · exact changes_foldl_addRouted change.stamp routes (partition.remember change)

theorem changes_foldl_addEvents (stamp : Timestamp) (events : List RowEvent)
    (streams : List StreamId) (partition : Partition) :
    (streams.foldl (addEvents scope stamp events) partition).changes = partition.changes := by
  induction streams generalizing partition with
  | nil => rfl
  | cons stream rest ih =>
      rw [List.foldl_cons, ih]
      rfl

theorem changes_addBatch (partition : Partition) (batch : RowBatch) :
    (partition.addBatch scope batch).changes = partition.changes := by
  rw [addBatch]
  split
  · simp only [changes_foldl_addEvents]
    rfl
  · rfl

theorem changes_addRecord (partition : Partition) (record : Record) :
    (partition.addRecord scope record).changes =
      partition.changes ++ (scope.remembered? record).toList := by
  cases record with
  | schemaChange change => exact changes_addChange partition.countRead change
  | rowBatch batch =>
      rw [addRecord, changes_addBatch]
      exact (List.append_nil _).symm

theorem changes_foldl {addOne : Partition → Record → Partition}
    (added : ∀ partition record, (addOne partition record).changes =
      partition.changes ++ (scope.remembered? record).toList)
    (log : List Record) (partition : Partition) :
    (log.foldl addOne partition).changes =
      partition.changes ++ log.filterMap scope.remembered? := by
  induction log generalizing partition with
  | nil => simp
  | cons record rest ih =>
      rw [List.foldl_cons, ih, added, List.append_assoc]
      cases kept : scope.remembered? record with
      | none => simp [kept]
      | some change => simp [kept]

theorem changes_foldl_addRecord (scope : Scope) (log : List Record) (partition : Partition) :
    (log.foldl (addRecord scope) partition).changes =
      partition.changes ++ log.filterMap scope.remembered? :=
  changes_foldl changes_addRecord log partition

end Partition

end RowLog
