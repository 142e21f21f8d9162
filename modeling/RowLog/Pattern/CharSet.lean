import RowLog.Text.Blank
import RowLog.Text.CaseFolding
import RowLog.Text.Word

/-!
# Sets of characters in patterns

A `CharSet` is a set of characters as a pattern writes it: runs of characters, combined by the set
operations and closed under change of case. Main definition: `CharSet.contains`.
-/

namespace RowLog

/-- A set of characters. -/
inductive CharSet
  | ranges (runs : CodeRanges)
  | complement (set : CharSet)
  /-- All characters that differ from a member at most in case; if `ascii` holds, only ASCII letters
  have a case. -/
  | folded (ascii : Bool) (set : CharSet)
  | union (parts : List CharSet)
  | both (left right : CharSet)
  | except (left right : CharSet)
  | onlyOne (left right : CharSet)
  | bracketed (set : CharSet)

namespace CharSet

def single (character : Char) : CharSet :=
  .ranges [(character.toNat, character.toNat)]

def all : CharSet :=
  .ranges [(0, 0x10ffff)]

mutual

def contains (character : Char) : CharSet → Bool
  | .ranges runs => runs.contains character
  | .complement set => !contains character set
  | .folded ascii set =>
      (if ascii then asciiVariants character else caseVariants character).any fun variant =>
        contains variant set
  | .union parts => anyContains character parts
  | .both left right => contains character left && contains character right
  | .except left right => contains character left && !contains character right
  | .onlyOne left right => contains character left != contains character right
  | .bracketed set => contains character set

def anyContains (character : Char) : List CharSet → Bool
  | [] => false
  | set :: rest => contains character set || anyContains character rest

end

mutual

/-- How deep brackets, unions and operations lie within each other. -/
def depth : CharSet → Nat
  | .ranges _ => 0
  | .complement set => depth set
  | .folded _ set => depth set
  | .union parts => depthOfAll parts + 1
  | .both left right => max (depth left) (depth right) + 1
  | .except left right => max (depth left) (depth right) + 1
  | .onlyOne left right => max (depth left) (depth right) + 1
  | .bracketed set => depth set + 1

def depthOfAll : List CharSet → Nat
  | [] => 0
  | set :: rest => max (depth set) (depthOfAll rest)

end

mutual

/-- The number of runs that the set is written with, a measure for the size of what recognizes it. -/
def weight : CharSet → Nat
  | .ranges runs => runs.length
  | .complement set => weight set + 1
  | .folded _ set => 2 * weight set
  | .union parts => weightOfAll parts
  | .both left right => weight left + weight right
  | .except left right => weight left + weight right
  | .onlyOne left right => weight left + weight right
  | .bracketed set => weight set

def weightOfAll : List CharSet → Nat
  | [] => 0
  | set :: rest => weight set + weightOfAll rest

end

end CharSet

end RowLog
