import RowLog.Pattern.Brackets
import RowLog.Text.Alphanumeric

/-!
# Reading patterns

A pattern is read by a machine that keeps a stack of the groups that are open, each with its
finished branches, the parts of the branch that is being read and the flags that are set in it. Main
definition: `Pattern.parse?`.
-/

namespace RowLog.Pattern

/-- What is read of a group, or of the whole pattern. -/
structure OpenGroup where
  flags : Flags
  /-- The finished branches, last first. -/
  branches : List Pattern
  /-- The parts of the branch that is being read, last first. -/
  parts : List Pattern

/-- The groups that are open. -/
structure Reading where
  innermost : OpenGroup
  /-- The groups around it, innermost first. -/
  outer : List OpenGroup
  names : List (List Char)

namespace OpenGroup

def add (group : OpenGroup) (part : Pattern) : OpenGroup :=
  { group with parts := part :: group.parts }

def branch (group : OpenGroup) : OpenGroup :=
  { group with branches := ofParts group.parts.reverse :: group.branches, parts := [] }

def pattern (group : OpenGroup) : Pattern :=
  ofBranches group.branch.branches.reverse

/-- Repeats the last part, which must be there and be more than flags. -/
def repeat? (group : OpenGroup) (least : Nat) (most : Option Nat) : Option OpenGroup :=
  match group.parts with
  | [] => none
  | .empty :: _ => none
  | part :: parts => some { group with parts := .repeated part least most :: parts }

end OpenGroup

namespace Reading

def start (flags : Flags) : Reading :=
  ⟨⟨flags, [], []⟩, [], []⟩

def add (reading : Reading) (part : Pattern) : Reading :=
  { reading with innermost := reading.innermost.add part }

def openGroup (reading : Reading) (flags : Flags) : Reading :=
  { reading with
    innermost := ⟨flags, [], []⟩
    outer := reading.innermost :: reading.outer }

def closeGroup? (reading : Reading) : Option Reading :=
  match reading.outer with
  | [] => none
  | around :: outer =>
      some { reading with
        innermost := around.add (.group reading.innermost.pattern)
        outer }

/-- The pattern, if no group is open. -/
def finish? (reading : Reading) : Option Pattern :=
  match reading.outer with
  | [] => some reading.innermost.pattern
  | _ => none

end Reading

def scanGroupName (input : List Char) : Option (List Char × List Char) :=
  match input.dropWhile (· != '>') with
  | [] => none
  | _ :: rest =>
      match input.takeWhile (· != '>') with
      | [] => none
      | first :: others =>
          let starts := first == '_' || (isAlphanumeric first && !isDigitChar first)
          let continues (character : Char) : Bool :=
            character == '_' || character == '.' || character == '[' || character == ']' ||
              isAlphanumeric character
          if starts && others.all continues then some (first :: others, rest) else none
where
  isDigitChar (character : Char) : Bool :=
    Flags.none.digits.contains character

/-- What follows the letters of flags. -/
inductive FlagsEnd
  | closed
  | colon

/-- Reads flags up to the character that ends them. `value` says whether they are set or cleared,
`hyphenLast` whether the hyphen that clears them was read last, and `seen` holds the letters read so
far, of which none may come twice. -/
def scanFlags (flags : Flags) (value hyphenLast : Bool) (seen : List Char) :
    List Char → Option (Flags × FlagsEnd × List Char)
  | [] => none
  | ')' :: rest => if hyphenLast || (value && seen.isEmpty) then none else some (flags, .closed, rest)
  | ':' :: rest => if hyphenLast then none else some (flags, .colon, rest)
  | '-' :: rest => if value then scanFlags flags false true seen rest else none
  | letter :: rest =>
      if seen.contains letter then none
      else do scanFlags (← flags.set? value letter) value false (letter :: seen) rest

/-- Whether a group would look around its place, which no pattern can. -/
def looksAround : List Char → Bool
  | '?' :: '=' :: _ => true
  | '?' :: '!' :: _ => true
  | '?' :: '<' :: '=' :: _ => true
  | '?' :: '<' :: '!' :: _ => true
  | _ => false

def scanNamedGroup (reading : Reading) (input : List Char) : Option (Reading × List Char) := do
  let (name, rest) ← scanGroupName input
  if reading.names.contains name then none
  else
    let reading := { reading with names := name :: reading.names }
    return (reading.openGroup reading.innermost.flags, rest)

/-- Reads how a group opens, from behind its parenthesis on. -/
def scanGroup (reading : Reading) (input : List Char) : Option (Reading × List Char) :=
  let flags := reading.innermost.flags
  let input := flags.dropSpace input
  if looksAround input then none
  else
    match input with
    | '?' :: 'P' :: '<' :: rest => scanNamedGroup reading rest
    | '?' :: '<' :: rest => scanNamedGroup reading rest
    | '?' :: rest => do
        match ← scanFlags flags true false [] rest with
        | (flags, .closed, rest) =>
            let reading := reading.add .empty
            return ({ reading with innermost := { reading.innermost with flags } }, rest)
        | (flags, .colon, rest) => return (reading.openGroup flags, rest)
    | rest => some (reading.openGroup flags, rest)

def countLimit : Nat := 0x100000000

/-- A number of repetitions, with blanks around it. -/
def count? (text : List Char) : Option Nat :=
  let digits := trimBlanks text
  if digits.isEmpty || !digits.all Char.isDigit then none
  else
    let value := digits.foldl (fun value digit => value * 10 + (digit.toNat - 48)) 0
    if value < countLimit then some value else none

def bounds? (text : List Char) : Option (Nat × Option Nat) := do
  match text.dropWhile (· != ',') with
  | [] =>
      let count ← count? text
      return (count, some count)
  | _ :: last =>
      let least ← count? (text.takeWhile (· != ','))
      if last.isEmpty then return (least, none)
      else
        let most ← count? last
        if least ≤ most then return (least, some most) else none

/-- Passes over the mark of a repetition that takes as little as it can. -/
def dropLazyMark : List Char → List Char
  | '?' :: rest => rest
  | input => input

/-- Repeats the last part. -/
def repeatPart (reading : Reading) (least : Nat) (most : Option Nat) (rest : List Char) :
    Option (Reading × List Char) := do
  return ({ reading with innermost := ← reading.innermost.repeat? least most }, dropLazyMark rest)

def partOfPiece (flags : Flags) : Piece → Pattern
  | .literal character => .oneOf (flags.fold (.single character))
  | .set set => .oneOf set
  | .place assertion => .place assertion

def readFrom (reading : Reading) (character : Char) (rest : List Char) :
    Option (Reading × List Char) :=
  let flags := reading.innermost.flags
  match character with
  | '(' => scanGroup reading rest
  | ')' => reading.closeGroup?.map (·, rest)
  | '|' => some ({ reading with innermost := reading.innermost.branch }, rest)
  | '[' => do
      let (set, rest) ← scanBrackets flags rest
      return (reading.add (.oneOf set), rest)
  | '?' => repeatPart reading 0 (some 1) rest
  | '*' => repeatPart reading 0 none rest
  | '+' => repeatPart reading 1 none rest
  | '\x7b' => do
      let (inside, rest) ← flags.braced? rest
      let (least, most) ← bounds? inside
      repeatPart reading least most (flags.dropSpace rest)
  | '\\' => do
      let (piece, rest) ← scanEscape flags rest
      return (reading.add (partOfPiece flags piece), rest)
  | '.' => if flags.ascii then none else some (reading.add (.oneOf flags.dot), rest)
  | '^' => some (reading.add (.place flags.startAnchor), rest)
  | '$' => some (reading.add (.place flags.endAnchor), rest)
  | _ => some (reading.add (partOfPiece flags (.literal character)), rest)

/-- Reads a pattern to its end. Every step reads at least one character, so `fuel` need not be more
than the length of the input. -/
def readAll : (fuel : Nat) → Reading → List Char → Option Reading
  | fuel, reading, input =>
      match fuel, reading.innermost.flags.dropSpace input with
      | _, [] => some reading
      | 0, _ :: _ => none
      | fuel + 1, character :: rest => do
          let (reading, rest) ← readFrom reading character rest
          readAll fuel reading rest

/-- The pattern that a text writes, if it writes one and this is not too large. -/
def parse? (text : String) : Option Pattern := do
  let characters := text.toList
  let reading ← readAll characters.length (.start .none) characters
  let pattern ← reading.finish?
  if pattern.isWithinLimits then return pattern else none

end RowLog.Pattern
