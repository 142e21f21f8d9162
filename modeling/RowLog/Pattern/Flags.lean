import RowLog.Pattern.Basic

/-!
# Flags

The flags that are set at a place of a pattern decide what is meant by a character, a dot, an anchor
or one of the named sets there.
-/

namespace RowLog.Pattern

/-- The flags that are set at a place of a pattern. -/
structure Flags where
  ignoreCase : Bool
  /-- The anchors `^` and `$` hold at the ends of lines. -/
  lines : Bool
  dotAll : Bool
  returns : Bool
  /-- Only ASCII characters are letters, digits and blanks, and no set goes beyond them. -/
  ascii : Bool
  /-- Blanks and comments between the parts of the pattern are passed over. -/
  spaced : Bool
  deriving DecidableEq

namespace Flags

def none : Flags := ⟨false, false, false, false, false, false⟩

/-- Sets or clears the flag with a given letter. Greed makes no difference to what matches. -/
def set? (flags : Flags) (value : Bool) : (letter : Char) → Option Flags
  | 'i' => some { flags with ignoreCase := value }
  | 'm' => some { flags with lines := value }
  | 's' => some { flags with dotAll := value }
  | 'R' => some { flags with returns := value }
  | 'u' => some { flags with ascii := !value }
  | 'x' => some { flags with spaced := value }
  | 'U' => some flags
  | _ => Option.none

def fold (flags : Flags) (set : CharSet) : CharSet :=
  if flags.ignoreCase then .folded flags.ascii set else set

def admits (flags : Flags) (set : CharSet) : Bool :=
  !flags.ascii || !set.contains '\x80'

def digits (flags : Flags) : CharSet :=
  .ranges (if flags.ascii then asciiDigitRanges else asciiDigitRanges ++ digitRanges)

def wordChars (flags : Flags) : CharSet :=
  .ranges (if flags.ascii then asciiWordRanges else asciiWordRanges ++ wordRanges)

def blanks (flags : Flags) : CharSet :=
  .ranges (if flags.ascii then [(0x9, 0xd), (0x20, 0x20)] else blankRanges)

def dot (flags : Flags) : CharSet :=
  if flags.dotAll then .all
  else if flags.returns then .complement (.ranges [(0xa, 0xa), (0xd, 0xd)])
  else .complement (.single '\n')

/-- What the anchor `^` asks. -/
def startAnchor (flags : Flags) : Assertion :=
  if flags.lines then .lineStart flags.returns else .textStart

/-- What the anchor `$` asks. -/
def endAnchor (flags : Flags) : Assertion :=
  if flags.lines then .lineEnd flags.returns else .textEnd

/-- Passes over blanks, and over comments, which run to the end of a line. -/
def dropGaps (inComment : Bool) : List Char → List Char
  | [] => []
  | character :: rest =>
      if inComment then dropGaps (character != '\n') rest
      else if isBlank character then dropGaps false rest
      else if character == '#' then dropGaps true rest
      else character :: rest

def dropSpace (flags : Flags) (input : List Char) : List Char :=
  if flags.spaced then dropGaps false input else input

/-- The text inside braces, of which the first is already read, and what comes after them. -/
def braced? (flags : Flags) (input : List Char) : Option (List Char × List Char) :=
  match input.dropWhile (· != '\x7d') with
  | [] => Option.none
  | _ :: rest =>
      let inside := input.takeWhile (· != '\x7d')
      some (if flags.spaced then inside.filter fun character => !isBlank character else inside, rest)

end Flags

def asciiClass? (name : List Char) : Option CodeRanges :=
  match String.ofList name with
  | "alnum" => some [(0x30, 0x39), (0x41, 0x5a), (0x61, 0x7a)]
  | "alpha" => some [(0x41, 0x5a), (0x61, 0x7a)]
  | "ascii" => some [(0, 0x7f)]
  | "blank" => some [(0x9, 0x9), (0x20, 0x20)]
  | "cntrl" => some [(0, 0x1f), (0x7f, 0x7f)]
  | "digit" => some [(0x30, 0x39)]
  | "graph" => some [(0x21, 0x7e)]
  | "lower" => some [(0x61, 0x7a)]
  | "print" => some [(0x20, 0x7e)]
  | "punct" => some [(0x21, 0x2f), (0x3a, 0x40), (0x5b, 0x60), (0x7b, 0x7e)]
  | "space" => some [(0x9, 0xd), (0x20, 0x20)]
  | "upper" => some [(0x41, 0x5a)]
  | "word" => some asciiWordRanges
  | "xdigit" => some [(0x30, 0x39), (0x41, 0x46), (0x61, 0x66)]
  | _ => none

end RowLog.Pattern
