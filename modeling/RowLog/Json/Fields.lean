import RowLog.Json.Document

/-!
# Reading records out of documents

A record is written as an object with one member for each field, or as an array of its fields in
order. Members that name no field are passed over; a field that is named twice makes the object no
record. `Document.fields?` finds the document of each field, and the other functions here read the
simple types a field may have.
-/

namespace RowLog.Json

/-- The documents under one name, in order. -/
def documentsUnder (name : String) (members : List Member) : List Document :=
  members.filterMap fun member => if member.1 == some name then some member.2 else none

/-- The document under a name, where a name may be missing but must not be repeated. -/
def atMostOne (name : String) (members : List Member) : Option (Option Document) :=
  match documentsUnder name members with
  | [] => some none
  | [document] => some (some document)
  | _ => none

namespace Document

/-- The documents of the named fields of an object, `none` for a field that is missing. -/
def objectFields? (names : List String) : Document → Option (List (Option Document))
  | .object members =>
      if members.all fun member => member.1.isSome then
        names.mapM fun name => atMostOne name members
      else none
  | _ => none

/-- The documents of the named fields of a record, `none` for a field that is missing. -/
def fields? (names : List String) : Document → Option (List (Option Document))
  | .array items =>
      if items.length ≤ names.length then
        some (items.map some ++ List.replicate (names.length - items.length) none)
      else none
  | document => document.objectFields? names

def text? : Document → Option String
  | .string text => text
  | _ => none

def items? : Document → Option (List Document)
  | .array items => some items
  | _ => none

def isNull : Document → Bool
  | .null => true
  | _ => false

def integer? : Document → Option Int
  | .number numeral => numeral.integer?
  | _ => none

def binary64? : Document → Option Binary64
  | .number numeral => numeral.binary64?
  | _ => none

/-- A natural number below `2 ^ 64`. -/
def nat? (document : Document) : Option Nat := do
  let value ← document.integer?
  if 0 ≤ value then some value.toNat else none

def uint64? (document : Document) : Option UInt64 :=
  document.nat?.map Nat.toUInt64

def int64? (document : Document) : Option Int64 := do
  let value ← document.integer?
  if value < 0x8000000000000000 then some (Int64.ofInt value) else none

def byte? (document : Document) : Option UInt8 := do
  let value ← document.nat?
  if value < 256 then some value.toUInt8 else none

def bytes? (document : Document) : Option (List UInt8) := do
  (← document.items?).mapM byte?

def bool? : Document → Option Bool
  | .bool value => some value
  | _ => none

/-- A word out of a fixed choice: a string, or an object with nothing but that name and null. -/
def word? : Document → Option String
  | .string text => text
  | .object [(some name, .null)] => some name
  | _ => none

/-- A list whose items are read by `item?`. -/
def list? {α : Type} (item? : Document → Option α) (document : Document) : Option (List α) := do
  (← document.items?).mapM item?

end Document

end RowLog.Json
