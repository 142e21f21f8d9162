import RowLog.Json.Value

/-!
# Columns of a row

A row event carries one `Column` for each column of its table: the name, the declared type, and the
value before the change. The column of an update that changed it carries the value after the change
as well.
-/

namespace RowLog

/-- The type a column is declared with. -/
inductive ColumnType
  | tiny
  | short
  | int24
  | long
  | longLong
  | year
  | float
  | double
  | decimal
  | newDecimal
  | date
  | newDate
  | datetime
  | timestamp
  | duration
  | varchar
  | varString
  | string
  | tinyBlob
  | mediumBlob
  | longBlob
  | blob
  | json
  | enum
  | set
  | bit
  | geometry
  | null
  deriving DecidableEq

namespace ColumnType

def all : List ColumnType :=
  [.tiny, .short, .int24, .long, .longLong, .year, .float, .double, .decimal, .newDecimal, .date,
    .newDate, .datetime, .timestamp, .duration, .varchar, .varString, .string, .tinyBlob,
    .mediumBlob, .longBlob, .blob, .json, .enum, .set, .bit, .geometry, .null]

def word : ColumnType → String
  | .tiny => "tiny"
  | .short => "short"
  | .int24 => "int24"
  | .long => "long"
  | .longLong => "long_long"
  | .year => "year"
  | .float => "float"
  | .double => "double"
  | .decimal => "decimal"
  | .newDecimal => "new_decimal"
  | .date => "date"
  | .newDate => "new_date"
  | .datetime => "datetime"
  | .timestamp => "timestamp"
  | .duration => "duration"
  | .varchar => "varchar"
  | .varString => "var_string"
  | .string => "string"
  | .tinyBlob => "tiny_blob"
  | .mediumBlob => "medium_blob"
  | .longBlob => "long_blob"
  | .blob => "blob"
  | .json => "json"
  | .enum => "enum"
  | .set => "set"
  | .bit => "bit"
  | .geometry => "geometry"
  | .null => "null"

def ofWord? (word : String) : Option ColumnType :=
  all.find? fun type => type.word == word

theorem ofWord?_word (type : ColumnType) : ofWord? type.word = some type := by
  cases type <;> decide

def isDecimal : ColumnType → Bool
  | .decimal | .newDecimal => true
  | _ => false

def isTextual : ColumnType → Bool
  | .varchar | .varString | .string | .json | .date | .newDate | .datetime | .timestamp
  | .duration | .decimal | .newDecimal => true
  | _ => false

end ColumnType

/-- The value of a column in one row. -/
inductive CellValue
  | null
  | int (value : Int64)
  | uint (value : UInt64)
  | float (value : Binary64)
  | bytes (value : List UInt8)
  | text (value : String)
  | decimal (value : String)
  | time (value : String)
  /-- One of the names a column declares, with its number. -/
  | enum (name : String) (code : UInt64)
  /-- Some of the names a column declares, with one bit for each. -/
  | set (names : String) (bits : UInt64)
  /-- A bit string, highest byte first. -/
  | bit (value : List UInt8)
  | json (value : Json.Value)

/-- The row before a change, or the row after it. -/
inductive Image
  | pre
  | post
  deriving DecidableEq

/-- One column of a row event. -/
structure Column where
  name : String
  type : ColumnType
  /-- The value before the change, and the only value of an insert or a delete. -/
  value : CellValue
  /-- The value after the change, if the change gave the column one. -/
  changed : Option CellValue

namespace Column

def image (column : Column) : Image → CellValue
  | .pre => column.value
  | .post => column.changed.getD column.value

/-- The column with its value in one image as its only value. -/
def settled (column : Column) (image : Image) : Column :=
  { column with value := column.image image, changed := none }

@[simp]
theorem image_settled (column : Column) (chosen other : Image) :
    (column.settled chosen).image other = column.image chosen := by
  cases other <;> rfl

@[simp]
theorem name_settled (column : Column) (image : Image) :
    (column.settled image).name = column.name := rfl

@[simp]
theorem type_settled (column : Column) (image : Image) :
    (column.settled image).type = column.type := rfl

end Column

/-- What can be wrong with the columns of a row. -/
inductive RowError
  | malformedColumn
  /-- A column of the key that the row does not have. -/
  | missingKeyColumn (column : String)
  deriving DecidableEq

/-- The wording of an error. What is wrong with a malformed column is not said. -/
def RowError.message : RowError → String
  | .malformedColumn => "malformed column"
  | .missingKeyColumn column => s!"schema mismatch: key column `{column}` missing from row"

end RowLog
