import TypedSelect.Form.Condition

/-! The JSON form of a statement. Only the table is required in reading it; a clause left
out is empty. -/
namespace TypedSelect

namespace OrderDirection

def all : List OrderDirection := [.ascending, .descending]

def name : OrderDirection → String
  | .ascending => "asc"
  | .descending => "desc"

def ofName? (name : String) : Option OrderDirection :=
  all.find? (·.name == name)

def toJson (direction : OrderDirection) : Json :=
  .text direction.name

def ofJson (value : Json) : Except DecodeError OrderDirection :=
  value.asCase ofName?

end OrderDirection

namespace OrderBy

def toJson (order : OrderBy) : Json :=
  .object [("column", .text order.column), ("direction", order.direction.toJson)]

def ofJson (value : Json) : Except DecodeError OrderBy := do
  let field ← value.fields ["column", "direction"]
  .ok {
    column := ← Json.required Json.asText (field "column")
    direction := ← Json.required OrderDirection.ofJson (field "direction") }

end OrderBy

namespace JoinClause

def toJson (join : JoinClause) : Json :=
  .object [("table", .text join.table), ("on_left", .text join.left),
    ("on_right", .text join.right)]

def ofJson (value : Json) : Except DecodeError JoinClause := do
  let field ← value.fields ["table", "on_left", "on_right"]
  .ok {
    table := ← Json.required Json.asText (field "table")
    left := ← Json.required Json.asText (field "on_left")
    right := ← Json.required Json.asText (field "on_right") }

end JoinClause

namespace SelectColumn

def toJson (column : SelectColumn) : Json :=
  .object (("column", .text column.column) ::
    (column.label.map fun label => ("alias", .text label)).toList)

def ofJson (value : Json) : Except DecodeError SelectColumn := do
  let field ← value.fields ["column", "alias"]
  .ok {
    column := ← Json.required Json.asText (field "column")
    label := ← Json.withDefault none (Json.asOption Json.asText) (field "alias") }

end SelectColumn

namespace Statement

def countJson (count : Option UInt64) : Json :=
  match count with
  | some n => .int n.toNat
  | none => .null

def toJson (statement : Statement) : Json :=
  .object [
    ("type", .text "select"),
    ("table", .text statement.table),
    ("columns", .array (statement.columns.map SelectColumn.toJson)),
    ("where", .array (statement.conditions.map Condition.toJson)),
    ("order_by", (statement.orderBy.map OrderBy.toJson).getD .null),
    ("limit", countJson statement.limit),
    ("offset", countJson statement.offset),
    ("joins", .array (statement.joins.map JoinClause.toJson))]

def fieldNames : List String :=
  ["table", "columns", "where", "order_by", "limit", "offset", "joins"]

def ofJson (value : Json) : Except DecodeError Statement := do
  let field ← value.fields fieldNames
  .ok {
    table := ← Json.required Json.asText (field "table")
    columns := ← Json.withDefault [] (Json.asList SelectColumn.ofJson) (field "columns")
    conditions := ← Json.withDefault [] (Json.asList Condition.ofJson) (field "where")
    orderBy := ← Json.withDefault none (Json.asOption OrderBy.ofJson) (field "order_by")
    limit := ← Json.withDefault none (Json.asOption Json.asUInt64) (field "limit")
    offset := ← Json.withDefault none (Json.asOption Json.asUInt64) (field "offset")
    joins := ← Json.withDefault [] (Json.asList JoinClause.ofJson) (field "joins") }

end Statement

end TypedSelect
