import RowLog.Pattern.Escape

/-!
# Sets in brackets

A pair of brackets holds characters, ranges of characters, sets and further brackets, and between
lists of these the operators `&&`, `--` and `~~`. It is read by a machine that keeps a stack of the
brackets that are open. Main definition: `scanBrackets`.
-/

namespace RowLog.Pattern

/-- An operator between sets. -/
inductive SetOperator
  | both
  | except
  | onlyOne
  deriving DecidableEq

def SetOperator.apply (flags : Flags) (operator : SetOperator) (left right : CharSet) : CharSet :=
  match operator with
  | .both => .both (flags.fold left) (flags.fold right)
  | .except => .except (flags.fold left) (flags.fold right)
  | .onlyOne => .onlyOne (flags.fold left) (flags.fold right)

/-- A pair of brackets that is not closed yet. -/
structure OpenBracket where
  negated : Bool
  /-- The operator that waits for its right side, with its left side. -/
  pending : Option (CharSet × SetOperator)
  /-- The items since then, last first. -/
  items : List CharSet

namespace OpenBracket

def add (bracket : OpenBracket) (item : CharSet) : OpenBracket :=
  { bracket with items := item :: bracket.items }

/-- The set of the items since the last operator. -/
def operand (bracket : OpenBracket) : CharSet :=
  match bracket.items with
  | [item] => item
  | items => .union items.reverse

def value (flags : Flags) (bracket : OpenBracket) : CharSet :=
  match bracket.pending with
  | some (left, operator) => operator.apply flags left bracket.operand
  | none => bracket.operand

def operate (flags : Flags) (bracket : OpenBracket) (operator : SetOperator) : OpenBracket :=
  ⟨bracket.negated, some (bracket.value flags, operator), []⟩

def close? (flags : Flags) (bracket : OpenBracket) : Option CharSet :=
  let set := flags.fold (bracket.value flags)
  let set := if bracket.negated then .complement set else set
  if flags.admits set then some (.bracketed set) else none

end OpenBracket

/-- Takes the hyphens that come first in brackets as characters. -/
def scanHyphens (flags : Flags) (bracket : OpenBracket) : List Char → OpenBracket × List Char
  | [] => (bracket, [])
  | character :: rest =>
      if character == '-' then scanHyphens flags (bracket.add (.single '-')) rest
      else if flags.spaced && isBlank character then scanHyphens flags bracket rest
      else (bracket, character :: rest)

/-- Reads how brackets open. A closing bracket that comes first is a character. -/
def scanOpening (flags : Flags) (input : List Char) : OpenBracket × List Char :=
  let (negated, input) :=
    match flags.dropSpace input with
    | '^' :: rest => (true, flags.dropSpace rest)
    | rest => (false, rest)
  let (bracket, input) := scanHyphens flags ⟨negated, none, []⟩ input
  match bracket.items, input with
  | [], ']' :: rest => (bracket.add (.single ']'), flags.dropSpace rest)
  | _, _ => (bracket, input)

/-- A set that is named between colons, from the opening bracket on. -/
def scanAsciiClass (flags : Flags) (input : List Char) : Option (CharSet × List Char) :=
  match input with
  | ':' :: rest =>
      let (negated, rest) :=
        match rest with
        | '^' :: rest => (true, rest)
        | rest => (false, rest)
      match rest.dropWhile (· != ':') with
      | ':' :: ']' :: after =>
          (asciiClass? (rest.takeWhile (· != ':'))).map fun ranges =>
            let set := flags.fold (.ranges ranges)
            (if negated then .complement set else set, after)
      | _ => none
  | _ => none

def scanItem (flags : Flags) : List Char → Option (Piece × List Char)
  | [] => none
  | '\\' :: rest => scanEscape flags rest
  | character :: rest => some (.literal character, rest)

def endpoint? (flags : Flags) : Piece → Option Char
  | .literal character =>
      if flags.ascii && 0x80 ≤ character.toNat then none else some character
  | _ => none

def item? (flags : Flags) : Piece → Option CharSet
  | .literal character => (endpoint? flags (.literal character)).map CharSet.single
  | .set set => some set
  | .place _ => none

def startsRange (flags : Flags) : List Char → Bool
  | '-' :: rest =>
      match flags.dropSpace rest with
      | ']' :: _ => false
      | '-' :: _ => false
      | _ => true
  | _ => false

/-- A character, a set or a range of characters. -/
def scanRange (flags : Flags) (input : List Char) : Option (CharSet × List Char) := do
  let (first, rest) ← scanItem flags input
  let rest := flags.dropSpace rest
  if startsRange flags rest then
    let (last, rest) ← scanItem flags (flags.dropSpace rest.tail)
    let first ← endpoint? flags first
    let last ← endpoint? flags last
    if first ≤ last then return (.ranges [(first.toNat, last.toNat)], rest) else none
  else return (← item? flags first, rest)

/-- Reads on in brackets, where `outer` are the brackets around the innermost ones. Every step reads
at least one character, so `fuel` need not be more than the length of the input. -/
def scanInBrackets (flags : Flags) :
    (fuel : Nat) → OpenBracket → (outer : List OpenBracket) → List Char →
      Option (CharSet × List Char)
  | 0, _, _, _ => none
  | fuel + 1, bracket, outer, input =>
      match flags.dropSpace input with
      | [] => none
      | '[' :: rest =>
          match scanAsciiClass flags rest with
          | some (set, rest) => scanInBrackets flags fuel (bracket.add set) outer rest
          | none =>
              let (inner, rest) := scanOpening flags rest
              scanInBrackets flags fuel inner (bracket :: outer) rest
      | ']' :: rest => do
          let set ← bracket.close? flags
          match outer with
          | [] => return (set, rest)
          | around :: outer => scanInBrackets flags fuel (around.add set) outer rest
      | '&' :: '&' :: rest => scanInBrackets flags fuel (bracket.operate flags .both) outer rest
      | '-' :: '-' :: rest => scanInBrackets flags fuel (bracket.operate flags .except) outer rest
      | '~' :: '~' :: rest => scanInBrackets flags fuel (bracket.operate flags .onlyOne) outer rest
      | input => do
          let (set, rest) ← scanRange flags input
          scanInBrackets flags fuel (bracket.add set) outer rest

/-- The set of a pair of brackets, of which the first is already read. -/
def scanBrackets (flags : Flags) (input : List Char) : Option (CharSet × List Char) :=
  let (bracket, rest) := scanOpening flags input
  scanInBrackets flags (rest.length + 1) bracket [] rest

end RowLog.Pattern
