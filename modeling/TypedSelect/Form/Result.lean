import TypedSelect.Form.Value
import TypedSelect.Result.Row

/-! The JSON form of result shapes and rows. A row is an object of plain values by output
field. -/
namespace TypedSelect

namespace OutputField

def toJson (field : OutputField) : Json :=
  .object [("name", .text field.name), ("column", .text field.column),
    ("column_type", field.type.toJson)]

def ofJson (value : Json) : Except DecodeError OutputField := do
  let field ← value.fields ["name", "column", "column_type"]
  .ok {
    name := ← Json.required Json.asText (field "name")
    column := ← Json.required Json.asText (field "column")
    type := ← Json.required ColumnType.ofJson (field "column_type") }

end OutputField

namespace ResultShape

def toJson (shape : ResultShape) : Json :=
  .object [("fields", .array (shape.fields.map OutputField.toJson))]

def ofJson (value : Json) : Except DecodeError ResultShape := do
  let field ← value.fields ["fields"]
  .ok ⟨← Json.required (Json.asList OutputField.ofJson) (field "fields")⟩

end ResultShape

/-- A value as a plain JSON value, its kind left out; dates have milliseconds. -/
def Value.toPlainJson : Value → Json
  | .null => .null
  | .bool value => .bool value
  | .int value => .int value.toInt
  | .float value => floatToJson value
  | .text value => .text value
  | .date value => .text (String.ofList (value.text .milliseconds))

def Row.toJson (row : Row) : Json :=
  .object (row.cells.map fun (name, value) => (name, value.toPlainJson))

end TypedSelect
