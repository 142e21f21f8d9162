import RowLog.Pattern.Basic

/-!
# Matching

A pattern is matched against all of a text at once. A set of places in the text is a number whose
bit `i` says whether the place before the character at `i` belongs to the set, and `Pattern.ends`
takes the places where a match may start to those where it may end. So a text is matched in a number
of steps that the pattern and the length of the text bound, whatever the pattern.
-/

namespace RowLog

abbrev Places := Nat

namespace Places

/-- The places before the characters of a text that belong to a set. -/
def before (set : CharSet) : List Char → Places
  | [] => 0
  | character :: rest => (if set.contains character then 1 else 0) + 2 * before set rest

/-- The places of a text where an assertion holds; `previous` is the character before the text. -/
def satisfying (assertion : Assertion) (previous : Option Char) : List Char → Places
  | [] => if assertion.holds previous none then 1 else 0
  | character :: rest =>
      (if assertion.holds previous (some character) then 1 else 0) +
        2 * satisfying assertion (some character) rest

def all (text : List Char) : Places :=
  (1 <<< (text.length + 1)) - 1

/-- Takes a step some number of times, or until it leads nowhere else. -/
def iterate (step : Places → Places) : Nat → Places → Places
  | 0, places => places
  | count + 1, places =>
      let next := step places
      if next == places then places else iterate step count next

end Places

namespace Pattern

mutual

/-- The places where a match can end if it starts at one of the given places. More repetitions than
there are places lead to no other places. -/
def ends (text : List Char) : Pattern → Places → Places
  | .empty, starts => starts
  | .oneOf set, starts => (starts &&& Places.before set text) <<< 1
  | .place assertion, starts => starts &&& Places.satisfying assertion none text
  | .group body, starts => ends text body starts
  | .repeated body least most, starts =>
      let enough := text.length + 1
      let needed := Places.iterate (ends text body) (min least enough) starts
      let more := match most with
        | some most => min (most - least) enough
        | none => enough
      Places.iterate (fun places => places ||| ends text body places) more needed
  | .sequence parts, starts => endsOfSequence text parts starts
  | .choice branches, starts => endsOfChoice text branches starts

/-- The places where matches of all parts, one after the other, can end. -/
def endsOfSequence (text : List Char) : List Pattern → Places → Places
  | [], starts => starts
  | part :: rest, starts => endsOfSequence text rest (ends text part starts)

def endsOfChoice (text : List Char) : List Pattern → Places → Places
  | [], _ => 0
  | branch :: rest, starts => ends text branch starts ||| endsOfChoice text rest starts

end

def isMatch (pattern : Pattern) (text : String) : Bool :=
  pattern.ends text.toList (Places.all text.toList) != 0

end Pattern

end RowLog
