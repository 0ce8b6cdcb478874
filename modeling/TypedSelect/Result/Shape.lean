import TypedSelect.Query.Basic

/-! The shape of a query's result: its output fields, where each comes from and its type. -/
namespace TypedSelect

structure OutputField where
  name : String
  column : String
  type : ColumnType
deriving DecidableEq, Repr

structure ResultShape where
  fields : List OutputField
deriving DecidableEq, Repr

namespace ResultShape

def names (shape : ResultShape) : List String :=
  shape.fields.map (·.name)

def field? (shape : ResultShape) (name : String) : Option OutputField :=
  shape.fields.find? (·.name == name)

/-- Fields whose name is neither taken nor that of an earlier field. -/
def withNewNames (taken : List String) : List OutputField → List OutputField
  | [] => []
  | field :: rest =>
    if field.name ∈ taken then withNewNames taken rest
    else field :: withNewNames (field.name :: taken) rest

def selectedFields (columns : List Column) : Selection → List OutputField
  | .all => columns.map fun column => ⟨column.name, column.name, column.type⟩
  | .columns selected => selected.filterMap fun column =>
    (columnType? columns column).map (⟨column, column, ·⟩)
  | .labelled pairs => pairs.filterMap fun (label, column) =>
    (columnType? columns column).map (⟨label, column, ·⟩)

def resolve (columns : List Column) (selection : Selection) : ResultShape :=
  ⟨withNewNames [] (selectedFields columns selection)⟩

end ResultShape

/-- The shape of what a query returns. -/
def Query.resultShape (query : Query) : Except QueryError ResultShape :=
  match query.table with
  | none => .error .missingTable
  | some _ => .ok (ResultShape.resolve query.scope.columns query.selection)

end TypedSelect
