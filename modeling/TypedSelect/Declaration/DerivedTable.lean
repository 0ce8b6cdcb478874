import TypedSelect.Declaration.Attribute
import TypedSelect.Declaration.FieldType

/-! Deriving a table from a declaration: its columns, and the accessors by which the table's
type and the declared type name them. -/
namespace TypedSelect

structure FieldColumn where
  field : String
  column : Column
deriving DecidableEq, Repr

structure DerivedTable where
  typeName : String
  rowType : String
  name : String
  columns : List FieldColumn
deriving DecidableEq, Repr

/-- A method without arguments and the name that it returns. -/
structure Accessor where
  method : String
  result : String
deriving DecidableEq, Repr

namespace DerivedTable

def tableColumns (derived : DerivedTable) : List Column :=
  derived.columns.map (·.column)

/-- The table as it is registered. -/
def toTable (derived : DerivedTable) : Table :=
  .ofColumns derived.name derived.tableColumns

def columnAccessors (derived : DerivedTable) : List Accessor :=
  derived.columns.map fun c => ⟨c.field, c.column.name⟩

def tableAccessors (derived : DerivedTable) : List Accessor :=
  ⟨"table_name", derived.name⟩ :: derived.columnAccessors

def rowAccessors (derived : DerivedTable) : List Accessor :=
  ⟨"table", derived.typeName⟩ :: derived.columnAccessors

end DerivedTable

/-- The column type of a field: the one that its attributes name, else that of its type. -/
def Field.columnType (field : Field) (settings : ColumnSettings) :
    Except DeclarationError ColumnType :=
  match settings.type with
  | some name =>
    match ColumnType.ofName? name with
    | some type => .ok type
    | none => .error (.rejected (.unknownColumnType name))
  | none =>
    match field.type.columnType? with
    | some type => .ok type
    | none => .error (.rejected .noColumnType)

def addField (columns : List FieldColumn) (field : Field) :
    Except DeclarationError (List FieldColumn) := do
  let settings ← ColumnSettings.ofAttributes field.attributes
  let name := settings.name.getD field.name
  if settings.skip then .ok columns
  else if name ∈ columns.map (·.column.name) then .error (.rejected (.duplicateColumn name))
  else
    let type ← field.columnType settings
    .ok (columns ++ [⟨field.name, ⟨name, type⟩⟩])

/-- A name without the mark of a raw identifier. -/
def plainName (name : String) : String :=
  match name.toList with
  | 'r' :: '#' :: rest => String.ofList rest
  | _ => name

namespace Declaration

/-- The table of a declaration. Its name is settled before its kind and its fields are
looked at. -/
def derive (declaration : Declaration) : Except DeclarationError DerivedTable := do
  let name ← tableName declaration.name declaration.attributes
  match declaration.kind with
  | .record =>
    let columns ← declaration.fields.foldlM addField []
    .ok ⟨plainName declaration.name ++ "Table", declaration.name, name, columns⟩
  | .tuple => .error (.rejected .unnamedFields)
  | .unit => .error (.rejected .unnamedFields)
  | .enumeration => .error (.rejected .notRecord)
  | .union => .error (.rejected .notRecord)

end Declaration

end TypedSelect
