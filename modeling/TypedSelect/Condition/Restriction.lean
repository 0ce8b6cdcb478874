import TypedSelect.Condition.Operator

/-! What a condition asks of its column, and the check against the column's type. -/
namespace TypedSelect

/-- Equality with a literal, or a set of operators that must all hold. -/
inductive Restriction where
  | literal (value : Value)
  | operators (set : OperatorSet)
deriving DecidableEq

inductive RestrictionFault where
  | malformed (fault : MalformedSet)
  | mismatch (operand : Value)
deriving DecidableEq

def Value.fault? (type : ColumnType) (value : Value) : Option RestrictionFault :=
  if value.conformsTo type then none else some (.mismatch value)

/-- The first fault of an operator's operands. A list must have some. -/
def Operator.fault? (type : ColumnType) (operator : Operator) : Option RestrictionFault :=
  if operator.operands.isEmpty then some (.malformed .emptyList)
  else operator.operands.findSome? (Value.fault? type)

/-- The first fault in canonical order. A set must have some operator. -/
def OperatorSet.fault? (type : ColumnType) (set : OperatorSet) : Option RestrictionFault :=
  if set.toList.isEmpty then some (.malformed .noOperators)
  else set.toList.findSome? (Operator.fault? type)

def Restriction.fault? (type : ColumnType) : Restriction → Option RestrictionFault
  | .literal value => value.fault? type
  | .operators set => set.fault? type

def Restriction.operands : Restriction → List Value
  | .literal value => [value]
  | .operators set => set.toList.flatMap (·.operands)

end TypedSelect
