import RowLog.Pattern.Flags

/-!
# Escapes

What a backslash and the characters after it stand for: a character, a set of characters or an
assertion. Main definition: `scanEscape`.
-/

namespace RowLog.Pattern

/-- What an escape stands for. -/
inductive Piece
  | literal (character : Char)
  | set (set : CharSet)
  | place (assertion : Assertion)

def hexValue? (character : Char) : Option Nat :=
  if character.isDigit then some (character.toNat - 48)
  else if 'a' ≤ character && character ≤ 'f' then some (character.toNat - 87)
  else if 'A' ≤ character && character ≤ 'F' then some (character.toNat - 55)
  else none

def charOfHex? (digits : List Char) : Option Char := do
  let values ← digits.mapM hexValue?
  let code := values.foldl (fun value digit => value * 16 + digit) 0
  if values.isEmpty || (0xd800 ≤ code && code < 0xe000) || 0x110000 ≤ code then none
  else some (Char.ofNat code)

/-- A fixed number of characters, with gaps between them passed over. -/
def takeSpaced (flags : Flags) : Nat → List Char → Option (List Char × List Char)
  | 0, input => some ([], input)
  | count + 1, input =>
      match flags.dropSpace input with
      | [] => none
      | character :: rest => do
          let (characters, rest) ← takeSpaced flags count rest
          return (character :: characters, rest)

/-- A character by its code, either in braces or with a fixed number of digits. Under the ASCII flag
two digits must not give the code of another character. -/
def scanHex (flags : Flags) (count : Nat) (input : List Char) : Option (Piece × List Char) := do
  match flags.dropSpace input with
  | '\x7b' :: rest =>
      let (digits, rest) ← flags.braced? rest
      return (.literal (← charOfHex? digits), flags.dropSpace rest)
  | input =>
      let (digits, rest) ← takeSpaced flags count input
      let character ← charOfHex? digits
      if flags.ascii && count == 2 && 0x80 ≤ character.toNat then none
      else return (.literal character, flags.dropSpace rest)

def wordPlace? (name : List Char) : Option WordPlace :=
  match String.ofList name with
  | "start" => some .start
  | "end" => some .finish
  | "start-half" => some .startHalf
  | "end-half" => some .finishHalf
  | _ => none

/-- Whether a character may be part of the name of a kind of place. -/
def isPlaceNameChar (character : Char) : Bool :=
  character.isAlpha || character == '-'

/-- The assertion of a boundary between words, with the name in braces that may follow it. Braces
that hold no name belong to a repetition. -/
def scanBoundary (flags : Flags) (input : List Char) : Option (Piece × List Char) := do
  let plain : Piece := .place (.word flags.ascii .boundary)
  match input with
  | '\x7b' :: rest =>
      match flags.dropSpace rest with
      | [] => none
      | first :: _ =>
          if isPlaceNameChar first then
            let (name, rest) ← flags.braced? rest
            return (.place (.word flags.ascii (← wordPlace? name)), rest)
          else return (plain, input)
  | _ => return (plain, input)

/-- Whether a character stands for itself after a backslash: all ASCII characters do but letters and
digits. -/
def isEscapable (character : Char) : Bool :=
  character.toNat < 0x80 && !character.isAlphanum

/-- A set under the flags, if it may be used. -/
def admitted? (flags : Flags) (set : CharSet) : Option Piece :=
  if flags.admits set then some (.set set) else none

/-- What an escape stands for, from the character after the backslash on. -/
def scanEscape (flags : Flags) : List Char → Option (Piece × List Char)
  | [] => none
  | letter :: rest =>
      match letter with
      | 'x' => scanHex flags 2 rest
      | 'u' => scanHex flags 4 rest
      | 'U' => scanHex flags 8 rest
      | 'd' => some (.set flags.digits, rest)
      | 's' => some (.set flags.blanks, rest)
      | 'w' => some (.set flags.wordChars, rest)
      | 'D' => (admitted? flags (.complement flags.digits)).map (·, rest)
      | 'S' => (admitted? flags (.complement flags.blanks)).map (·, rest)
      | 'W' => (admitted? flags (.complement flags.wordChars)).map (·, rest)
      | 'a' => some (.literal '\x07', rest)
      | 'f' => some (.literal '\x0c', rest)
      | 't' => some (.literal '\t', rest)
      | 'n' => some (.literal '\n', rest)
      | 'r' => some (.literal '\r', rest)
      | 'v' => some (.literal '\x0b', rest)
      | 'A' => some (.place .textStart, rest)
      | 'z' => some (.place .textEnd, rest)
      | 'b' => scanBoundary flags rest
      | 'B' => some (.place (.word flags.ascii .noBoundary), rest)
      | '<' => some (.place (.word flags.ascii .start), rest)
      | '>' => some (.place (.word flags.ascii .finish), rest)
      | _ => if isEscapable letter then some (.literal letter, rest) else none

end RowLog.Pattern
