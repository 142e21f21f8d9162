import RowLog.Decimal.Canonical
import RowLog.Row.ColumnCodec
import RowLog.Schema.TableInfo

/-!
# The key of a row

The key of a row is the list of the values of its key columns, each written as one segment that
ends in `|`. A value has the same segment whatever encoding the log used for it, and null has the
empty segment. Inside a segment, `|` and the backslash are escaped.
-/

namespace RowLog

def keySeparator : Char := '|'

def escapeSegment (segment : List Char) : List Char :=
  segment.flatMap fun character =>
    if character == keySeparator || character == '\\' then ['\\', character] else [character]

def hexBytes (bytes : List UInt8) : List Char :=
  bytes.flatMap fun byte => [Nat.digitChar (byte.toNat / 16), Nat.digitChar (byte.toNat % 16)]

/-- The number that a bit string denotes, of which the low 64 bits count. -/
def bitValue (bytes : List UInt8) : Nat :=
  bytes.foldl (fun value byte => (value * 256 + byte.toNat) % 0x10000000000000000) 0

namespace CellValue

/-- The segment of bytes in a column of a given type: a number for a bit string, the text for a type
of texts, in one spelling for a decimal type, and hexadecimal digits for any other type. -/
def bytesSegment (type : ColumnType) (bytes : List UInt8) : List Char :=
  if type = .bit then Nat.toDigits 10 (bitValue bytes)
  else if type.isDecimal then canonicalDecimal (Utf8.repair bytes).toList
  else if type.isTextual then (Utf8.repair bytes).toList
  else hexBytes bytes

/-- The segment of a value in a column of a given type, before escaping. -/
def segment (type : ColumnType) : CellValue → List Char
  | .null => []
  | .int value => Json.intChars value.toInt
  | .uint value => Nat.toDigits 10 value.toNat
  | .float value => plainLayout.write value
  | .bytes value => bytesSegment type value
  | .text value => if type.isDecimal then canonicalDecimal value.toList else value.toList
  | .decimal value => canonicalDecimal value.toList
  | .time value => value.toList
  | .enum _ code => Nat.toDigits 10 code.toNat
  | .set _ bits => Nat.toDigits 10 bits.toNat
  | .bit value => Nat.toDigits 10 (bitValue value)
  | .json value => value.chars

end CellValue

/-- The column of a row with a given name; if several have it, the last one. -/
def columnNamed? (columns : List Column) (name : String) : Option Column :=
  columns.reverse.find? fun column => column.name == name

/-- The segments of a row's key in one image of the row, before escaping. -/
def keySegments (columns : List Column) (info : TableInfo) (image : Image) :
    Except RowError (List (List Char)) :=
  info.keyColumns.mapM fun name =>
    match columnNamed? columns name with
    | some column => .ok ((column.image image).segment column.type)
    | none => .error (.missingKeyColumn name)

def keyOfSegments (segments : List (List Char)) : String :=
  String.ofList (segments.flatMap fun segment => escapeSegment segment ++ [keySeparator])

def rowKey (columns : List Column) (info : TableInfo) (image : Image) : Except RowError String :=
  (keySegments columns info image).map keyOfSegments

end RowLog
