import RowLog.Json.Value

/-!
# Documents laid out over lines

An `Outline` is a document that is to be read by people. Every item of an array and every member of
an object has a line of its own, two blanks further in than the line with the opening bracket.
-/

namespace RowLog.Json

/-- A document to be laid out. -/
inductive Outline
  /-- A document without parts, as it is written. -/
  | leaf (chars : List Char)
  | array (items : List Outline)
  | object (members : List (String × Outline))

namespace Outline

def text (value : String) : Outline := .leaf (stringChars value)

def number (value : Int) : Outline := .leaf (intChars value)

def null : Outline := .leaf ['n', 'u', 'l', 'l']

def newLine (level : Nat) : List Char :=
  '\n' :: List.replicate (2 * level) ' '

/-- Lines between brackets, each with a comma after it unless it is the last one. Brackets without
anything in them stay on one line. -/
def block (level : Nat) (first last : Char) : List (List Char) → List Char
  | [] => [first, last]
  | line :: lines =>
      first :: newLine (level + 1) ++ line ++
        (lines.flatMap fun line => ',' :: newLine (level + 1) ++ line) ++ newLine level ++ [last]

mutual

def charsAt (level : Nat) : Outline → List Char
  | .leaf chars => chars
  | .array items => block level '[' ']' (linesOfItems (level + 1) items)
  | .object members => block level '\x7b' '\x7d' (linesOfMembers (level + 1) members)

def linesOfItems (level : Nat) : List Outline → List (List Char)
  | [] => []
  | item :: rest => charsAt level item :: linesOfItems level rest

def linesOfMembers (level : Nat) : List (String × Outline) → List (List Char)
  | [] => []
  | (name, value) :: rest =>
      (stringChars name ++ [':', ' '] ++ charsAt level value) :: linesOfMembers level rest

end

def chars (outline : Outline) : List Char :=
  outline.charsAt 0

end Outline

end RowLog.Json
