import TypedSelect.Condition.Restriction
import TypedSelect.Schema.Error

/-! What can be wrong with a query. -/
namespace TypedSelect

inductive QueryError where
  | schema (error : SchemaError)
  | typeMismatch (column : String) (expected : ColumnType) (received : String)
  | invalidCondition (column : String) (fault : MalformedSet)
  | missingTable
  | missingColumns (table : String)
deriving DecidableEq

/-- What an error is about, without its details. -/
inductive ErrorKind where
  | schema
  | typeMismatch
  | invalidCondition
  | missingTable
  | missingColumns
deriving DecidableEq, Repr

namespace QueryError

def kind : QueryError → ErrorKind
  | .schema _ => .schema
  | .typeMismatch _ _ _ => .typeMismatch
  | .invalidCondition _ _ => .invalidCondition
  | .missingTable => .missingTable
  | .missingColumns _ => .missingColumns

def message : QueryError → String
  | .schema error => error.message
  | .typeMismatch column expected received =>
    s!"type mismatch on column '{column}': expected {expected.name}, received {received}"
  | .invalidCondition column fault => s!"invalid condition on column '{column}': {fault.reason}"
  | .missingTable => "cannot compile a query without a FROM table"
  | .missingColumns table => s!"query on table '{table}' has no selected columns"

def ofFault (column : String) (type : ColumnType) : RestrictionFault → QueryError
  | .malformed fault => .invalidCondition column fault
  | .mismatch operand => .typeMismatch column type operand.literal

end QueryError

def Restriction.check (column : String) (type : ColumnType) (restriction : Restriction) :
    Except QueryError Unit :=
  match restriction.fault? type with
  | some fault => .error (.ofFault column type fault)
  | none => .ok ()

end TypedSelect
