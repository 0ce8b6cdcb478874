import TypedSelect.Query.Error
import TypedSelect.Schema.Registry

/-! The columns that a query can name: those of its base table and of the tables joined to
it. Tables may share a column name if they agree on its type; it is then listed once. -/
namespace TypedSelect

structure Scope where
  tables : List String
  columns : List Column
deriving DecidableEq, Repr

namespace Scope

def empty : Scope := ⟨[], []⟩

def ofTable (table : Table) : Scope := ⟨[table.name], table.columns⟩

def typeOf? (scope : Scope) (column : String) : Option ColumnType :=
  columnType? scope.columns column

/-- The tables in scope, in the order in which they came in. -/
def describe (scope : Scope) : String :=
  if scope.tables.isEmpty then "<none>" else String.intercalate ", " scope.tables

def unknownColumn (scope : Scope) (column : String) : QueryError :=
  .schema (.unknownColumn column scope.describe)

def require (scope : Scope) (column : String) : Except QueryError ColumnType :=
  match scope.typeOf? column with
  | some type => .ok type
  | none => .error (scope.unknownColumn column)

/-- Whether the scope has a column of a table with another type. -/
def columnConflict? (scope : Scope) (table : String) (column : Column) : Option QueryError :=
  match scope.typeOf? column.name with
  | some existing =>
    if existing = column.type then none
    else some (.schema (.joinColumnConflict table column.name existing column.type))
  | none => none

/-- The first column of a table that the scope has with another type. -/
def conflict? (scope : Scope) (table : Table) : Option QueryError :=
  table.columns.findSome? (scope.columnConflict? table.name)

/-- Brings a table's new columns into scope, after the others. -/
def join (scope : Scope) (table : Table) : Except QueryError Scope :=
  match scope.conflict? table with
  | some error => .error error
  | none => .ok {
      tables := scope.tables ++ [table.name]
      columns := scope.columns ++
        table.columns.filter fun column => (scope.typeOf? column.name).isNone }

end Scope

end TypedSelect
