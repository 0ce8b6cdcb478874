import TypedSelect.Form.Decode
import TypedSelect.Time.TimestampReader

/-! The JSON form of column types and values. A value is an object of its kind and, null
apart, its content. -/
namespace TypedSelect

open Time

def ColumnType.toJson (type : ColumnType) : Json :=
  .text type.name

def ColumnType.ofJson (value : Json) : Except DecodeError ColumnType :=
  value.asCase ColumnType.ofName?

namespace Value

/-- A number that is not finite has no JSON form and is written as null. -/
def floatToJson (x : Number.Binary64) : Json :=
  if x.isFinite then .float x else .null

def contentJson : Value → Option Json
  | .null => none
  | .bool value => some (.bool value)
  | .int value => some (.int value.toInt)
  | .float value => some (floatToJson value)
  | .text value => some (.text value)
  | .date value => some (.text (String.ofList (value.text .exact)))

def kindName : Value → String
  | .null => "null"
  | .bool _ => "bool"
  | .int _ => "int"
  | .float _ => "float"
  | .text _ => "text"
  | .date _ => "date"

def toJson (value : Value) : Json :=
  .object (("type", .text value.kindName) ::
    (value.contentJson.map (("value", ·))).toList)

def ofInstantJson (value : Json) : Except DecodeError Value := do
  match Instant.read (← value.asText).toList with
  | some instant => .ok (.date instant)
  | none => .error .wrongForm

/-- Null may have null for its content. -/
def ofContent (kind : String) (content : Option Json) : Except DecodeError Value :=
  match kind with
  | "null" =>
    match content with
    | none => .ok .null
    | some .null => .ok .null
    | some _ => .error .wrongForm
  | "bool" => (Json.required Json.asBool content).map .bool
  | "int" => (Json.required Json.asInt64 content).map .int
  | "float" => (Json.required Json.asFloat content).map .float
  | "text" => (Json.required Json.asText content).map .text
  | "date" => Json.required ofInstantJson content
  | _ => .error .wrongForm

def ofJson (value : Json) : Except DecodeError Value := do
  let (kind, content) ← value.tagged "type" "value"
  ofContent kind content

end Value

end TypedSelect
