import TypedSelect.Json.Tree
import TypedSelect.Number.Layout

/-! The compact text of a JSON tree. -/
namespace TypedSelect.Json

open Number

/-- Numbers from 1e-5 up to 1e16 are written positionally, whole ones with a zero after
the point; of two nearest decimals the even one is taken. -/
def numberStyle : Style where
  tie := .toEven
  positional := some (-5, 15)
  wholeSuffix := ['.', '0']

def escaped (c : Char) : List Char :=
  if c = '\x22' then ['\\', '\x22']
  else if c = '\\' then ['\\', '\\']
  else if c = '\x08' then ['\\', 'b']
  else if c = '\x0c' then ['\\', 'f']
  else if c = '\n' then ['\\', 'n']
  else if c = '\r' then ['\\', 'r']
  else if c = '\t' then ['\\', 't']
  else if c.toNat < 0x20 then
    ['\\', 'u', '0', '0', Nat.digitChar (c.toNat / 16), Nat.digitChar (c.toNat % 16)]
  else [c]

def quoted (text : String) : String :=
  String.ofList ('\x22' :: (text.toList.flatMap escaped ++ ['\x22']))

mutual

/-- The text of a tree, without blanks. A number that is not finite has no text of its own
and is written as null. -/
def write : Json → String
  | .null => "null"
  | .bool value => if value then "true" else "false"
  | .int value => String.ofList (integerText value)
  | .float value => if value.isFinite then String.ofList (numberStyle.text value) else "null"
  | .text value => quoted value
  | .array items => "[" ++ String.intercalate "," (writeItems items) ++ "]"
  | .object members => "\x7b" ++ String.intercalate "," (writeMembers members) ++ "\x7d"

@[inherit_doc write]
def writeItems : List Json → List String
  | [] => []
  | item :: rest => item.write :: writeItems rest

@[inherit_doc write]
def writeMembers : List (String × Json) → List String
  | [] => []
  | (key, value) :: rest => (quoted key ++ ":" ++ value.write) :: writeMembers rest

end

end TypedSelect.Json
