import Std.Data.ExtTreeMap
import RowLog.Merge.NetEvent

/-!
# Pending events

`Pending` holds the net events of one table since the last time it was drained, at most one for each
key, and hands them back in an order in which they can be replayed. A delete whose key another row
takes over is moved out of its place and is replayed before all others.
-/

namespace RowLog

/-- Two rows that are both there would have the same key. -/
structure KeyConflict where
  schema : String
  table : String
  key : String
  deriving DecidableEq

def KeyConflict.message (conflict : KeyConflict) : String :=
  s!"key conflict in `{conflict.schema}`.`{conflict.table}`: " ++
    s!"two live rows share key `{conflict.key}`"

/-- The pending events of one table. -/
structure Pending where
  /-- The events that have a place, each under the key that is its own. -/
  entries : Std.ExtTreeMap String NetEvent
  /-- The deletes that were moved out of their place, in the order in which this happened. -/
  displaced : List NetEvent
  /-- How many events could not follow the one that was pending. -/
  invalidCount : Nat

namespace Pending

def empty : Pending := ⟨∅, [], 0⟩

def get? (pending : Pending) (key : String) : Option NetEvent :=
  pending.entries[key]?

def size (pending : Pending) : Nat :=
  pending.entries.size + pending.displaced.length

def erase (pending : Pending) (key : String) : Pending :=
  { pending with entries := pending.entries.erase key }

/-- Puts an event in its place, whatever is there. -/
def put (pending : Pending) (event : NetEvent) : Pending :=
  { pending with entries := pending.entries.insert event.mapKey event }

def displace (pending : Pending) (event : NetEvent) : Pending :=
  { pending with displaced := pending.displaced ++ [event] }

/-- Gives an event its place. Of a delete and another event the delete is moved out; two events
that both leave a row behind conflict, and the one that was there stays. -/
def insert (pending : Pending) (event : NetEvent) : Pending × Option KeyConflict :=
  match pending.get? event.mapKey with
  | none => (pending.put event, none)
  | some occupant =>
      if occupant.kind = .delete then ((pending.displace occupant).put event, none)
      else if event.kind = .delete then (pending.displace event, none)
      else (pending, some ⟨event.schema, event.table, event.mapKey⟩)

/-- The number of events that could not follow the pending one, after a transition. -/
def countInvalid (pending : Pending) (transition : Transition) : Pending :=
  if transition = .invalid then { pending with invalidCount := pending.invalidCount + 1 }
  else pending

/-- Gives an event its place and answers with the transition that led to it, or with the conflict
that it runs into. -/
def store (pending : Pending) (event : NetEvent) (transition : Transition) :
    Pending × Except KeyConflict Transition :=
  match pending.insert event with
  | (next, none) => (next, .ok transition)
  | (next, some conflict) => (next, .error conflict)

/-- Takes in one more event: it is merged into the event that is pending under its old key, or is
pending from now on. -/
def apply (pending : Pending) (event : NetEvent) : Pending × Except KeyConflict Transition :=
  match pending.get? event.oldKey with
  | none => pending.store event .added
  | some earlier =>
      let (merged, transition) := earlier.merge event
      let others := (pending.erase event.oldKey).countInvalid transition
      if merged.cancelled then (others, .ok transition) else others.store merged transition

def rank : EventKind → Nat
  | .delete => 0
  | .update => 1
  | .insert => 2

/-- Whether one event is drained no later than another: deletes come before updates and these before
inserts, and events of one kind come in the order of their keys. -/
def drainsBefore (first second : NetEvent) : Bool :=
  rank first.kind < rank second.kind ||
    (rank first.kind == rank second.kind && first.mapKey ≤ second.mapKey)

/-- All pending events in the order in which they are to be replayed. -/
def toList (pending : Pending) : List NetEvent :=
  pending.displaced ++ pending.entries.values.mergeSort drainsBefore

def drain (pending : Pending) : List NetEvent × Pending :=
  (pending.toList, { pending with entries := ∅, displaced := [] })

end Pending

end RowLog
