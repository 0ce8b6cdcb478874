import TypedSelect.Statement.Basic

/-! The SQL text of a statement. It is put together from fixed texts and operands; writing
the operands as literals gives the inline text, writing placeholders the parameterized one. -/
namespace TypedSelect

open Number

inductive Fragment where
  | text (content : String)
  | operand (value : Value)
deriving DecidableEq

namespace Fragment

def placeholder : String := "?"

def inlineText : Fragment → String
  | .text content => content
  | .operand value => value.literal

def placeholderText : Fragment → String
  | .text content => content
  | .operand _ => placeholder

def operand? : Fragment → Option Value
  | .text _ => none
  | .operand value => some value

end Fragment

/-- Pieces with a text between each two of them. -/
def separated (separator : String) (pieces : List (List Fragment)) : List Fragment :=
  List.intercalate [.text separator] pieces

def Operator.fragments (column : String) : Operator → List Fragment
  | .compare comparison operand =>
    [.text column, .text " ", .text comparison.symbol, .text " ", .operand operand]
  | .oneOf operands =>
    [.text column, .text " ", .text "IN", .text " ("] ++
      separated ", " (operands.map fun value => [.operand value]) ++ [.text ")"]

def Condition.fragments (condition : Condition) : List Fragment :=
  match condition.restriction with
  | .literal value => [.text condition.column, .text " = ", .operand value]
  | .operators set => separated " AND " (set.toList.map (Operator.fragments condition.column))

def conditionsFragments (conditions : List Condition) : List Fragment :=
  separated " AND " (conditions.map Condition.fragments)

def inlineSql (fragments : List Fragment) : String :=
  String.join (fragments.map Fragment.inlineText)

def Condition.sql (condition : Condition) : String :=
  inlineSql condition.fragments

def conditionsSql? (conditions : List Condition) : Option String :=
  if conditions.isEmpty then none else some (inlineSql (conditionsFragments conditions))

namespace Statement

def columnsText (columns : List SelectColumn) : String :=
  if columns.isEmpty then "*" else String.intercalate ", " (columns.map SelectColumn.text)

def joinText (join : JoinClause) : String :=
  s!" JOIN {join.table} ON {join.left} = {join.right}"

def orderText (order : OrderBy) : String :=
  s!" ORDER BY {order.column} {order.direction.keyword}"

def countText (keyword : String) (count : UInt64) : String :=
  keyword ++ String.ofList (digits count.toNat)

def optional (clause : Option String) : List Fragment :=
  (clause.map Fragment.text).toList

def fragments (statement : Statement) : List Fragment :=
  [.text "SELECT ", .text (columnsText statement.columns), .text " FROM ", .text statement.table] ++
    statement.joins.map (Fragment.text ∘ joinText) ++
    (if statement.conditions.isEmpty then []
      else .text " WHERE " :: conditionsFragments statement.conditions) ++
    optional (statement.orderBy.map orderText) ++
    optional (statement.limit.map (countText " LIMIT ")) ++
    optional (statement.offset.map (countText " OFFSET ")) ++
    [.text ";"]

/-- The text with literals in it. It is for reading; operands belong beside the text, as
the parameterized form has them. -/
def sql (statement : Statement) : String :=
  inlineSql statement.fragments

/-- The text with placeholders, and the operands in the order of their placeholders. -/
def parameterized (statement : Statement) : String × List Value :=
  (String.join (statement.fragments.map Fragment.placeholderText),
    statement.fragments.filterMap Fragment.operand?)

end Statement

end TypedSelect
