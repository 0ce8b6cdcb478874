import TypedSelect.Condition.Operator
import TypedSelect.Json.Tree

/-! Decoding JSON trees. A record may be given as an object, whose unknown members are
ignored, or as an array of its fields in their order. -/
namespace TypedSelect

inductive DecodeError where
  | wrongForm
  | malformed (fault : MalformedSet)
deriving DecidableEq, Repr

namespace Json

def asText : Json → Except DecodeError String
  | .text value => .ok value
  | _ => .error .wrongForm

def asBool : Json → Except DecodeError Bool
  | .bool value => .ok value
  | _ => .error .wrongForm

def asInt64 : Json → Except DecodeError Int64
  | .int value =>
    if Int64.minValue.toInt ≤ value ∧ value ≤ Int64.maxValue.toInt then .ok (Int64.ofInt value)
    else .error .wrongForm
  | _ => .error .wrongForm

def asUInt64 : Json → Except DecodeError UInt64
  | .int value =>
    if 0 ≤ value ∧ value < UInt64.size then .ok (UInt64.ofNat value.toNat) else .error .wrongForm
  | _ => .error .wrongForm

/-- A floating-point number, for which a whole number may stand too. -/
def asFloat : Json → Except DecodeError Number.Binary64
  | .float value => .ok value
  | .int value => .ok (Number.Binary64.ofInt value)
  | _ => .error .wrongForm

def asList {α : Type} (item : Json → Except DecodeError α) : Json → Except DecodeError (List α)
  | .array items => items.mapM item
  | _ => .error .wrongForm

def asOption {α : Type} (some : Json → Except DecodeError α) : Json → Except DecodeError (Option α)
  | .null => .ok none
  | value => (some value).map Option.some

/-- The name of a case: a text, or an object with this name as its only key and null under it. -/
def asName : Json → Except DecodeError String
  | .text name => .ok name
  | .object [(name, .null)] => .ok name
  | _ => .error .wrongForm

def asCase {α : Type} (ofName? : String → Option α) (value : Json) : Except DecodeError α := do
  match ofName? (← value.asName) with
  | some case => .ok case
  | none => .error .wrongForm

def fields (names : List String) : Json → Except DecodeError (String → Option Json)
  | .object members => .ok fun name => members.lookup name
  | .array items =>
    if items.length ≤ names.length then .ok fun name => (names.zip items).lookup name
    else .error .wrongForm
  | _ => .error .wrongForm

def required {α : Type} (decode : Json → Except DecodeError α) :
    Option Json → Except DecodeError α
  | some value => decode value
  | none => .error .wrongForm

def withDefault {α : Type} (default : α) (decode : Json → Except DecodeError α) :
    Option Json → Except DecodeError α
  | some value => decode value
  | none => .ok default

/-- A case by name together with its content: an object with a key for each, where the
content may be absent, or an array of the two, where the name is a text. -/
def tagged (tag content : String) : Json → Except DecodeError (String × Option Json)
  | .object members => do
    let name ← required asName (members.lookup tag)
    .ok (name, members.lookup content)
  | .array [name, value] => do .ok (← name.asText, some value)
  | _ => .error .wrongForm

end Json

end TypedSelect
