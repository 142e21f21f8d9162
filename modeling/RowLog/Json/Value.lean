import RowLog.Json.Document
import RowLog.Decimal.Layout

/-!
# JSON values

A `Value` is what a document means: the members of an object are in ascending order of their names,
no name is repeated, and a number is an integer if it was written as one that fits 64 bits, and
otherwise a floating-point number. `Value.ofDocument?` reads a document, `Value.text` writes one.
-/

namespace RowLog.Json

/-- An integer among the signed or the unsigned ones of 64 bits. -/
structure Integer where
  value : Int
  lower : -0x8000000000000000 ≤ value
  upper : value < 0x10000000000000000
  deriving DecidableEq

/-- The integer with a given value, if the value fits. -/
def Integer.ofInt? (value : Int) : Option Integer :=
  if lower : -0x8000000000000000 ≤ value then
    if upper : value < 0x10000000000000000 then some ⟨value, lower, upper⟩ else none
  else none

/-- The meaning of a document. -/
inductive Value
  | null
  | bool (value : Bool)
  | integer (number : Integer)
  | float (number : Binary64)
  | string (text : String)
  | array (items : List Value)
  | object (members : List (String × Value))

/-- The members of an object after one of them is given a value: they stay in ascending order of
their names, and the value under a name that is already there is replaced. -/
def setMember (name : String) (value : Value) : List (String × Value) → List (String × Value)
  | [] => [(name, value)]
  | (other, current) :: rest =>
      match compare name other with
      | .lt => (name, value) :: (other, current) :: rest
      | .eq => (name, value) :: rest
      | .gt => (other, current) :: setMember name value rest

namespace Value

def ofNumeral? (numeral : Numeral) : Option Value :=
  match numeral.integer?.bind Integer.ofInt? with
  | some number => some (.integer number)
  | none => numeral.binary64?.map .float

mutual

/-- The value of a document; `none` if it has a string without text or too large a number. -/
def ofDocument? : Document → Option Value
  | .null => some .null
  | .bool value => some (.bool value)
  | .number numeral => ofNumeral? numeral
  | .string text => text.map .string
  | .array items => (ofDocuments? items).map .array
  | .object members => (ofMembers? [] members).map .object

/-- The values of documents, in order. -/
def ofDocuments? : List Document → Option (List Value)
  | [] => some []
  | item :: rest =>
      match ofDocument? item, ofDocuments? rest with
      | some value, some values => some (value :: values)
      | _, _ => none

/-- The members of an object after those that are already found; the last one of a name counts. -/
def ofMembers? (found : List (String × Value)) : List Member → Option (List (String × Value))
  | [] => some found
  | (some name, document) :: rest =>
      match ofDocument? document with
      | some value => ofMembers? (setMember name value found) rest
      | none => none
  | (none, _) :: _ => none

end

end Value

def escapeChar (character : Char) : List Char :=
  if character == '"' then ['\\', '"']
  else if character == '\\' then ['\\', '\\']
  else if character == '\x08' then ['\\', 'b']
  else if character == '\x0c' then ['\\', 'f']
  else if character == '\n' then ['\\', 'n']
  else if character == '\r' then ['\\', 'r']
  else if character == '\t' then ['\\', 't']
  else if character < ' ' then
    ['\\', 'u', '0', '0', Nat.digitChar (character.toNat / 16), Nat.digitChar (character.toNat % 16)]
  else [character]

def stringChars (text : String) : List Char :=
  '"' :: text.toList.flatMap escapeChar ++ ['"']

def intChars (value : Int) : List Char :=
  (if value < 0 then ['-'] else []) ++ Nat.toDigits 10 value.natAbs

def separated : List (List Char) → List Char
  | [] => []
  | item :: rest => item ++ rest.flatMap fun next => ',' :: next

def arrayChars (items : List (List Char)) : List Char :=
  '[' :: separated items ++ [']']

/-- Texts as the members of an object, each under its name. -/
def objectChars (members : List (String × List Char)) : List Char :=
  '\x7b' :: separated (members.map fun member => stringChars member.1 ++ ':' :: member.2) ++
    ['\x7d']

namespace Value

mutual

/-- The text of a value, without blanks. -/
def chars : Value → List Char
  | .null => ['n', 'u', 'l', 'l']
  | .bool true => ['t', 'r', 'u', 'e']
  | .bool false => ['f', 'a', 'l', 's', 'e']
  | .integer number => intChars number.value
  | .float number => jsonLayout.write number
  | .string text => stringChars text
  | .array items => arrayChars (itemChars items)
  | .object members => objectChars (memberChars members)

def itemChars : List Value → List (List Char)
  | [] => []
  | item :: rest => chars item :: itemChars rest

def memberChars : List (String × Value) → List (String × List Char)
  | [] => []
  | (name, value) :: rest => (name, chars value) :: memberChars rest

end

/-- The text of a value, without blanks. -/
def text (value : Value) : String :=
  String.ofList value.chars

end Value

end RowLog.Json
