import TypedSelect.Schema.Registry

/-! Declarations of record types from which tables are derived: a name, fields with their
types, and attributes on both. -/
namespace TypedSelect

inductive ItemValue where
  | text (value : String)
  | other
deriving DecidableEq, Repr

structure AttributeItem where
  key : String
  value : Option ItemValue
deriving DecidableEq, Repr

inductive AttributeBody where
  | bare
  | assigned
  | items (items : List AttributeItem)
deriving DecidableEq, Repr

structure Attribute where
  path : String
  body : AttributeBody
deriving DecidableEq, Repr

/-- The type of a field. A path has the arguments of its last segment; lifetimes occur only
among arguments. -/
inductive FieldType where
  | path (segments : List String) (arguments : List FieldType)
  | reference (target : FieldType)
  | slice (element : FieldType)
  | parenthesized (inner : FieldType)
  | tuple (components : List FieldType)
  | lifetime (name : String)

structure Field where
  name : String
  type : FieldType
  attributes : List Attribute

inductive DeclarationKind where
  | record
  | tuple
  | unit
  | enumeration
  | union
deriving DecidableEq, Repr

structure Declaration where
  kind : DeclarationKind
  name : String
  attributes : List Attribute
  fields : List Field

inductive Rejection where
  | unnamedFields
  | notRecord
  | unsupportedAttribute
  | duplicateColumn (column : String)
  | unknownColumnType (name : String)
  | noColumnType
deriving DecidableEq, Repr

def Rejection.message : Rejection → String
  | .unnamedFields => "Table derive only supports structs with named fields"
  | .notRecord => "Table derive only supports structs"
  | .unsupportedAttribute => "unsupported column attribute"
  | .duplicateColumn column => s!"duplicate column name '{column}'"
  | .unknownColumnType name =>
    s!"unknown column type '{name}', expected number, string, date or boolean"
  | .noColumnType => "cannot infer a column type, use #[column(type = \"...\")]"

/-- What the syntax of attributes does not allow, at the path of an attribute or the key of an
item. -/
inductive SyntaxFault where
  | noItems (path : String)
  | valueGiven (key : String)
  | noValue (key : String)
  | notText (key : String)
deriving DecidableEq, Repr

inductive DeclarationError where
  | malformed (fault : SyntaxFault)
  | rejected (reason : Rejection)
deriving DecidableEq, Repr

end TypedSelect
