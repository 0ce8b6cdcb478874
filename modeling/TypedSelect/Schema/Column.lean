/-! Columns and the types that they are declared with. -/
namespace TypedSelect

inductive ColumnType where
  | number
  | string
  | date
  | boolean
deriving DecidableEq, Repr

namespace ColumnType

def all : List ColumnType := [.number, .string, .date, .boolean]

def name : ColumnType → String
  | .number => "number"
  | .string => "string"
  | .date => "date"
  | .boolean => "boolean"

def ofName? (name : String) : Option ColumnType :=
  all.find? (·.name == name)

end ColumnType

structure Column where
  name : String
  type : ColumnType
deriving DecidableEq, Repr

/-- The type of the first column of a name. -/
def columnType? (columns : List Column) (name : String) : Option ColumnType :=
  (columns.find? (·.name == name)).map (·.type)

end TypedSelect
