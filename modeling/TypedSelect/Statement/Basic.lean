import TypedSelect.Condition.Restriction

/-! SELECT statements as data. -/
namespace TypedSelect

structure SelectColumn where
  column : String
  label : Option String
deriving DecidableEq, Repr

namespace SelectColumn

def outputName (column : SelectColumn) : String :=
  column.label.getD column.column

def text (column : SelectColumn) : String :=
  match column.label with
  | some label => s!"{column.column} AS {label}"
  | none => column.column

end SelectColumn

inductive OrderDirection where
  | ascending
  | descending
deriving DecidableEq, Repr

def OrderDirection.keyword : OrderDirection → String
  | .ascending => "ASC"
  | .descending => "DESC"

structure OrderBy where
  column : String
  direction : OrderDirection
deriving DecidableEq, Repr

structure JoinClause where
  table : String
  left : String
  right : String
deriving DecidableEq, Repr

structure Condition where
  column : String
  restriction : Restriction
deriving DecidableEq

/-- A statement; no columns stand for all of them. -/
structure Statement where
  table : String
  columns : List SelectColumn
  conditions : List Condition
  orderBy : Option OrderBy
  limit : Option UInt64
  offset : Option UInt64
  joins : List JoinClause
deriving DecidableEq

def Statement.ofTable (table : String) : Statement :=
  ⟨table, [], [], none, none, none, []⟩

end TypedSelect
