import TypedSelect.Form.Value
import TypedSelect.Statement.Basic

/-! The JSON form of operators and conditions. A set of operators is the list of them; it is
read from any list that makes a set. -/
namespace TypedSelect

namespace Comparison

def tag : Comparison → String
  | .equal => "eq"
  | .notEqual => "ne"
  | .greater => "gt"
  | .atLeast => "gte"
  | .less => "lt"
  | .atMost => "lte"

def ofTag? (tag : String) : Option Comparison :=
  all.find? (·.tag == tag)

end Comparison

namespace Operator

def toJson : Operator → Json
  | .compare comparison operand =>
    .object [("op", .text comparison.tag), ("operand", operand.toJson)]
  | .oneOf operands =>
    .object [("op", .text "in"), ("operand", .array (operands.map Value.toJson))]

def ofJson (value : Json) : Except DecodeError Operator := do
  let (tag, content) ← value.tagged "op" "operand"
  if tag = "in" then (Json.required (Json.asList Value.ofJson) content).map .oneOf
  else match Comparison.ofTag? tag with
    | some comparison => (Json.required Value.ofJson content).map (.compare comparison)
    | none => .error .wrongForm

end Operator

namespace OperatorSet

def toJson (set : OperatorSet) : Json :=
  .array (set.toList.map Operator.toJson)

def ofJson (value : Json) : Except DecodeError OperatorSet := do
  match ofList (← value.asList Operator.ofJson) with
  | .ok set => .ok set
  | .error fault => .error (.malformed fault)

end OperatorSet

namespace Restriction

def toJson : Restriction → Json
  | .literal value => .object [("kind", .text "literal"), ("value", value.toJson)]
  | .operators set => .object [("kind", .text "operators"), ("value", set.toJson)]

def ofJson (value : Json) : Except DecodeError Restriction := do
  let (kind, content) ← value.tagged "kind" "value"
  match kind with
  | "literal" => (Json.required Value.ofJson content).map .literal
  | "operators" => (Json.required OperatorSet.ofJson content).map .operators
  | _ => .error .wrongForm

end Restriction

namespace Condition

def toJson (condition : Condition) : Json :=
  .object [("column", .text condition.column), ("value", condition.restriction.toJson)]

def ofJson (value : Json) : Except DecodeError Condition := do
  let field ← value.fields ["column", "value"]
  .ok {
    column := ← Json.required Json.asText (field "column")
    restriction := ← Json.required Restriction.ofJson (field "value") }

end Condition

end TypedSelect
