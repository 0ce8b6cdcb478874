import TypedSelect.Result.Shape

/-! Rows as an engine returns them, by column, and as a query returns them, by output field. -/
namespace TypedSelect

/-- Values by column; of several for one column the last counts. -/
structure RawRow where
  cells : List (String × Value)
deriving DecidableEq

def RawRow.get? (row : RawRow) (column : String) : Option Value :=
  row.cells.reverse.lookup column

structure Row where
  cells : List (String × Value)
deriving DecidableEq

def Row.get? (row : Row) (name : String) : Option Value :=
  row.cells.lookup name

structure RowShapeError where
  field : String
  expected : ColumnType
  received : String
deriving DecidableEq

def RowShapeError.message (error : RowShapeError) : String :=
  s!"row field '{error.field}' expected {error.expected.name}, received {error.received}"

/-- The cell of one field. A value that is missing or null fits every field. -/
def OutputField.project (field : OutputField) (row : RawRow) :
    Except RowShapeError (String × Value) :=
  let value := (row.get? field.column).getD .null
  if value.isNull || value.conformsTo field.type then .ok (field.name, value)
  else .error ⟨field.name, field.type, value.literal⟩

/-- The row of all fields, up to the first whose value does not fit. -/
def ResultShape.project (shape : ResultShape) (row : RawRow) : Except RowShapeError Row :=
  (shape.fields.mapM (OutputField.project · row)).map Row.mk

end TypedSelect
