import TypedSelect.Number.Layout
import TypedSelect.Schema.Column
import TypedSelect.Text.Literal
import TypedSelect.Time.Timestamp

/-! The values that conditions compare with and that rows hold. -/
namespace TypedSelect

open Number Time

inductive Value where
  | null
  | bool (value : Bool)
  | int (value : Int64)
  | float (value : Binary64)
  | text (value : String)
  | date (value : Instant)
deriving DecidableEq

namespace Value

def columnType? : Value → Option ColumnType
  | .null => none
  | .bool _ => some .boolean
  | .int _ => some .number
  | .float _ => some .number
  | .text _ => some .string
  | .date _ => some .date

def isNull (value : Value) : Bool :=
  value.columnType?.isNone

/-- Whether a value can stand in a column of a type. Null and numbers that are not finite
stand in no column. -/
def conformsTo (value : Value) (type : ColumnType) : Bool :=
  match value with
  | .float x => x.isFinite && type == .number
  | other => other.columnType? == some type

/-- Literal numbers are always written positionally, whole ones without a point; of two
nearest decimals the upper one is taken. -/
def numberStyle : Style where
  tie := .upward
  positional := none
  wholeSuffix := []

def floatText (x : Binary64) : List Char :=
  if x.isFinite then numberStyle.text x
  else if x.isInfinite then
    if x.isNegative then ['-', 'i', 'n', 'f'] else ['i', 'n', 'f']
  else ['N', 'a', 'N']

def literal : Value → String
  | .null => "NULL"
  | .bool value => if value then "TRUE" else "FALSE"
  | .int value => String.ofList (integerText value.toInt)
  | .float value => String.ofList (floatText value)
  | .text value => String.ofList (Text.literal value.toList)
  | .date value => String.ofList (Text.literal (value.text .milliseconds))

end Value

end TypedSelect
