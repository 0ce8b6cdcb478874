import TypedSelect.Schema.Column

/-! What can be wrong with the names of tables, columns and aliases. -/
namespace TypedSelect

/-- Unknown names are reported with a text that names the tables searched. -/
inductive SchemaError where
  | unknownTable (table : String)
  | unknownJoinTable (table context : String)
  | unknownColumn (column context : String)
  | duplicateTable (table : String)
  | duplicateColumn (table column : String)
  | duplicateAlias (label : String)
  | joinColumnConflict (table column : String) (existing joined : ColumnType)
deriving DecidableEq, Repr

namespace SchemaError

def message : SchemaError → String
  | .unknownTable table => s!"unknown table '{table}'"
  | .unknownJoinTable table context =>
    s!"unknown join table '{table}' for table context [{context}]"
  | .unknownColumn column context => s!"unknown column '{column}' in table context [{context}]"
  | .duplicateTable table => s!"table '{table}' is registered more than once"
  | .duplicateColumn table column =>
    s!"column '{column}' is declared more than once in table '{table}'"
  | .duplicateAlias label => s!"alias '{label}' is used more than once in the selection"
  | .joinColumnConflict table column existing joined =>
    s!"joining '{table}' brings column '{column}' as {joined.name} " ++
      s!"but it is already in scope as {existing.name}"

end SchemaError

end TypedSelect
