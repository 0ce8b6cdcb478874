import TypedSelect.Declaration.Basic
import TypedSelect.Text.SnakeCase

/-! What the attributes of a declaration and of its fields say. Items are taken in order, up
to the first that is not in order. -/
namespace TypedSelect

/-- The text that an item must have for its value. -/
def AttributeItem.text (item : AttributeItem) : Except DeclarationError String :=
  match item.value with
  | some (.text text) => .ok text
  | some .other => .error (.malformed (.notText item.key))
  | none => .error (.malformed (.noValue item.key))

/-- What the column attributes of a field settle; later items override earlier ones. -/
structure ColumnSettings where
  name : Option String
  type : Option String
  skip : Bool
deriving DecidableEq, Repr

namespace ColumnSettings

def none : ColumnSettings := ⟨.none, .none, false⟩

def addItem (settings : ColumnSettings) (item : AttributeItem) :
    Except DeclarationError ColumnSettings :=
  match item.key with
  | "skip" =>
    if item.value.isSome then .error (.malformed (.valueGiven item.key))
    else .ok { settings with skip := true }
  | "name" => item.text.map fun name => { settings with name := some name }
  | "type" => item.text.map fun type => { settings with type := some type }
  | _ => .error (.rejected .unsupportedAttribute)

/-- Attributes of other names say nothing about the column. -/
def addAttribute (settings : ColumnSettings) (attr : Attribute) :
    Except DeclarationError ColumnSettings :=
  if attr.path = "column" then
    match attr.body with
    | .bare => .ok settings
    | .assigned => .error (.malformed (.noItems attr.path))
    | .items items => items.foldlM addItem settings
  else .ok settings

def ofAttributes (attributes : List Attribute) : Except DeclarationError ColumnSettings :=
  attributes.foldlM addAttribute none

end ColumnSettings

/-- Takes an item of a table attribute into account. The name needs a value, of which only
a text counts; other keys must not have one. -/
def addTableItem (name : Option String) (item : AttributeItem) :
    Except DeclarationError (Option String) :=
  if item.key = "name" then
    match item.value with
    | some (.text text) => .ok (some text)
    | some .other => .ok name
    | none => .error (.malformed (.noValue item.key))
  else if item.value.isSome then .error (.malformed (.valueGiven item.key))
  else .ok name

def attributeTableName? (attr : Attribute) : Except DeclarationError (Option String) :=
  if attr.path = "table" then
    match attr.body with
    | .items items => items.foldlM addTableItem none
    | .bare | .assigned => .error (.malformed (.noItems attr.path))
  else .ok none

/-- The name of the first attribute that gives one, else the type's name in snake case. -/
def tableName (typeName : String) : List Attribute → Except DeclarationError String
  | [] => .ok (String.ofList (Text.snakeCase typeName.toList))
  | attr :: rest => do
    match ← attributeTableName? attr with
    | some name => .ok name
    | none => tableName typeName rest

end TypedSelect
