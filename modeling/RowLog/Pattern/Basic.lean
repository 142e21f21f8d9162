import RowLog.Pattern.CharSet

/-!
# Patterns

A `Pattern` is a regular expression with nothing left open: what its flags mean is worked into its
sets and assertions. Here are the type, the assertions and what they ask of a place in a text, and
the measures by which a pattern may be found too large.
-/

namespace RowLog

/-- What an assertion about word characters asks of a place. -/
inductive WordPlace
  | boundary
  | noBoundary
  | start
  | finish
  | startHalf
  | finishHalf
  deriving DecidableEq

/-- A condition on a place in a text. -/
inductive Assertion
  | textStart
  | textEnd
  /-- The start of a line. If `returns` holds, carriage returns end lines too. -/
  | lineStart (returns : Bool)
  | lineEnd (returns : Bool)
  /-- A place between words; if `ascii` holds, only ASCII characters make up words. -/
  | word (ascii : Bool) (place : WordPlace)
  deriving DecidableEq

namespace WordPlace

/-- Whether a place is of a kind, by whether word characters come before and after it. -/
def holds (before after : Bool) : WordPlace → Bool
  | .boundary => before != after
  | .noBoundary => before == after
  | .start => !before && after
  | .finish => before && !after
  | .startHalf => !before
  | .finishHalf => !after

end WordPlace

namespace Assertion

def isWordChar (ascii : Bool) (character : Char) : Bool :=
  if ascii then asciiWordRanges.contains character else isWord character

/-- Whether an assertion holds between two characters, or at an end of the text. -/
def holds (before after : Option Char) : Assertion → Bool
  | .textStart => before.isNone
  | .textEnd => after.isNone
  | .lineStart returns =>
      before.isNone || before == some '\n' ||
        (returns && before == some '\r' && after != some '\n')
  | .lineEnd returns =>
      after.isNone || (after == some '\n' && !(returns && before == some '\r')) ||
        (returns && after == some '\r')
  | .word ascii place => place.holds (before.any (isWordChar ascii)) (after.any (isWordChar ascii))

end Assertion

/-- A regular expression. -/
inductive Pattern
  | empty
  | oneOf (set : CharSet)
  | place (assertion : Assertion)
  | group (body : Pattern)
  /-- At least `least` and, if there is a bound, at most `most` times the body. -/
  | repeated (body : Pattern) (least : Nat) (most : Option Nat)
  | sequence (parts : List Pattern)
  | choice (branches : List Pattern)

namespace Pattern

def ofParts : List Pattern → Pattern
  | [] => .empty
  | [part] => part
  | parts => .sequence parts

def ofBranches : List Pattern → Pattern
  | [branch] => branch
  | branches => .choice branches

mutual

def depth : Pattern → Nat
  | .empty => 0
  | .oneOf set => set.depth
  | .place _ => 0
  | .group body => depth body + 1
  | .repeated body _ _ => depth body + 1
  | .sequence parts => depthOfAll parts + 1
  | .choice branches => depthOfAll branches + 1

def depthOfAll : List Pattern → Nat
  | [] => 0
  | pattern :: rest => max (depth pattern) (depthOfAll rest)

end

mutual

/-- The number of runs of characters in a pattern whose repetitions are written out. -/
def weight : Pattern → Nat
  | .empty => 0
  | .oneOf set => set.weight
  | .place _ => 1
  | .group body => weight body
  | .repeated body least most => weight body * max 1 (max least (most.getD 0))
  | .sequence parts => weightOfAll parts
  | .choice branches => weightOfAll branches

def weightOfAll : List Pattern → Nat
  | [] => 0
  | pattern :: rest => weight pattern + weightOfAll rest

end

def depthLimit : Nat := 250

def weightLimit : Nat := 200000

/-- Whether a pattern is neither too deep nor too large. -/
def isWithinLimits (pattern : Pattern) : Bool :=
  pattern.depth ≤ depthLimit && pattern.weight ≤ weightLimit

end Pattern

end RowLog
