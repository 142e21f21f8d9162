import RowLog.Json.Token

/-!
# Documents as written

A `Document` is the tree of a JSON text with nothing decided about it: numbers are numerals, the
members of an object keep their order and their repetitions, and a string may denote no text.
`Document.parse` builds the tree by a machine that takes one token at a time and keeps a stack of
the arrays and objects that are still open, so that no nesting is too deep for it.
-/

namespace RowLog.Json

/-- The tree of a JSON text. -/
inductive Document
  | null
  | bool (value : Bool)
  | number (numeral : Numeral)
  | string (text : Option String)
  | array (items : List Document)
  | object (members : List (Option String × Document))

abbrev Member := Option String × Document

/-- An array or object that is not yet closed; what it holds so far is given last first. -/
inductive Frame
  | array (items : List Document)
  /-- An object in which the document under `key` comes next. -/
  | object (members : List Member) (key : Option String)

/-- What may come next in the innermost open array or object. -/
inductive Phase
  | document
  /-- The first item or the end of an array must follow. -/
  | firstItem
  /-- The first name or the end of an object must follow. -/
  | firstKey
  | key (members : List Member)
  | colon (members : List Member) (key : Option String)
  | afterItem (items : List Document)
  | afterMember (members : List Member)
  | finished (document : Document)

/-- A state of the machine: the open arrays and objects, innermost first, and what may follow. -/
structure Machine where
  stack : List Frame
  phase : Phase

namespace Machine

def start : Machine := ⟨[], .document⟩

/-- The state after a whole document has been read inside the given arrays and objects. -/
def complete : List Frame → Document → Machine
  | [], document => ⟨[], .finished document⟩
  | .array items :: stack, document => ⟨stack, .afterItem (document :: items)⟩
  | .object members key :: stack, document => ⟨stack, .afterMember ((key, document) :: members)⟩

/-- The state after the first token of a document. -/
def begin (stack : List Frame) : Token → Option Machine
  | .null => some (complete stack .null)
  | .bool value => some (complete stack (.bool value))
  | .number numeral => some (complete stack (.number numeral))
  | .string text => some (complete stack (.string text))
  | .openBracket => some ⟨stack, .firstItem⟩
  | .openBrace => some ⟨stack, .firstKey⟩
  | _ => none

/-- The state after one more token, if the token may stand here. -/
def step (machine : Machine) (token : Token) : Option Machine :=
  match machine.phase, token with
  | .document, token => begin machine.stack token
  | .firstItem, .closeBracket => some (complete machine.stack (.array []))
  | .firstItem, token => begin (.array [] :: machine.stack) token
  | .firstKey, .closeBrace => some (complete machine.stack (.object []))
  | .firstKey, .string key => some ⟨machine.stack, .colon [] key⟩
  | .key members, .string key => some ⟨machine.stack, .colon members key⟩
  | .colon members key, .colon => some ⟨.object members key :: machine.stack, .document⟩
  | .afterItem items, .comma => some ⟨.array items :: machine.stack, .document⟩
  | .afterItem items, .closeBracket => some (complete machine.stack (.array items.reverse))
  | .afterMember members, .comma => some ⟨machine.stack, .key members⟩
  | .afterMember members, .closeBrace => some (complete machine.stack (.object members.reverse))
  | _, _ => none

def run : Machine → List Token → Option Machine
  | machine, [] => some machine
  | machine, token :: rest =>
      match machine.step token with
      | some next => next.run rest
      | none => none

theorem run_append (machine : Machine) (first second : List Token) :
    machine.run (first ++ second) = (machine.run first).bind fun next => next.run second := by
  induction first generalizing machine with
  | nil => rfl
  | cons token rest ih =>
      simp only [List.cons_append, run]
      split <;> simp_all

/-- The document that has been read, if it is complete. -/
def result? (machine : Machine) : Option Document :=
  match machine.phase with
  | .finished document => some document
  | _ => none

end Machine

namespace Document

def ofTokens? (tokens : List Token) : Option Document :=
  (Machine.start.run tokens).bind Machine.result?

/-- The document that bytes are the text of; `none` if they are the text of none. -/
def parse (bytes : List UInt8) : Option Document :=
  (Token.scan bytes).bind ofTokens?

mutual

/-- Whether every string and every name denotes a text, no number is too large, and arrays and
objects lie within each other at most `limit` deep. -/
def isSound (limit : Nat) : Document → Bool
  | .null => true
  | .bool _ => true
  | .number numeral => numeral.integer?.isSome || numeral.binary64?.isSome
  | .string text => text.isSome
  | .array items => 0 < limit && areSound (limit - 1) items
  | .object members => 0 < limit && membersAreSound (limit - 1) members

def areSound (limit : Nat) : List Document → Bool
  | [] => true
  | item :: rest => isSound limit item && areSound limit rest

/-- Whether all names denote texts and all documents under them are sound. -/
def membersAreSound (limit : Nat) : List Member → Bool
  | [] => true
  | (key, document) :: rest =>
      key.isSome && isSound limit document && membersAreSound limit rest

end

end Document

end RowLog.Json
