import TypedSelect.Text.Uppercase

/-! Table names made from type names: an underscore before every uppercase character but
the first, and ASCII letters in lower case. -/
namespace TypedSelect.Text

def snakeChar (c : Char) : List Char :=
  if isUppercase c then ['_', c.toLower] else [c]

def snakeCase : List Char → List Char
  | [] => []
  | c :: rest => c.toLower :: rest.flatMap snakeChar

end TypedSelect.Text
