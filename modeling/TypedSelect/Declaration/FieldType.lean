import TypedSelect.Declaration.Basic

/-! The column type that the type of a field stands for. -/
namespace TypedSelect

def namedColumnType? (name : String) : Option ColumnType :=
  if name ∈ ["i8", "i16", "i32", "i64", "i128", "isize", "u8", "u16", "u32", "u64", "u128",
      "usize", "f32", "f64"] then some .number
  else if name ∈ ["String", "str"] then some .string
  else if name = "bool" then some .boolean
  else if name ∈ ["NaiveDate", "NaiveDateTime", "DateTime"] then some .date
  else none

/-- The column type of a type. References and optional types stand for what they hold; of a
path only the last segment counts. -/
def FieldType.columnType? : FieldType → Option ColumnType
  | .reference target => target.columnType?
  | .path segments arguments =>
    match segments.getLast? with
    | none => none
    | some name =>
      if name = "Option" then
        match arguments with
        | first :: _ => first.columnType?
        | [] => none
      else namedColumnType? name
  | _ => none

end TypedSelect
