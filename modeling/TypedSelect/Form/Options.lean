import TypedSelect.Form.Decode
import TypedSelect.Query.Basic
import TypedSelect.Result.Execution

/-! The JSON form of options. What is left out in reading them has its default. -/
namespace TypedSelect

namespace QueryOptions

def toJson (options : QueryOptions) : Json :=
  .object [("require_columns", .bool options.requireColumns)]

def ofJson (value : Json) : Except DecodeError QueryOptions := do
  let field ← value.fields ["require_columns"]
  .ok ⟨← Json.withDefault QueryOptions.default.requireColumns Json.asBool
    (field "require_columns")⟩

end QueryOptions

namespace ExecuteOptions

def toJson (options : ExecuteOptions) : Json :=
  .object [("timeout_ms", .int options.timeout.toNat)]

def ofJson (value : Json) : Except DecodeError ExecuteOptions := do
  let field ← value.fields ["timeout_ms"]
  .ok ⟨← Json.withDefault ExecuteOptions.default.timeout Json.asUInt64 (field "timeout_ms")⟩

end ExecuteOptions

end TypedSelect
