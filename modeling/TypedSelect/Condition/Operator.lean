import TypedSelect.Condition.OrderedInsertion
import TypedSelect.Value

/-! Comparison operators with their operands, and sets of them with at most one operator of
each kind. -/
namespace TypedSelect

inductive Comparison where
  | equal
  | notEqual
  | greater
  | atLeast
  | less
  | atMost
deriving DecidableEq, Repr

namespace Comparison

def all : List Comparison := [.equal, .notEqual, .greater, .atLeast, .less, .atMost]

def symbol : Comparison → String
  | .equal => "="
  | .notEqual => "<>"
  | .greater => ">"
  | .atLeast => ">="
  | .less => "<"
  | .atMost => "<="

def rank : Comparison → Nat
  | .equal => 0
  | .notEqual => 1
  | .greater => 2
  | .atLeast => 3
  | .less => 4
  | .atMost => 5

end Comparison

inductive Operator where
  | compare (comparison : Comparison) (operand : Value)
  | oneOf (operands : List Value)
deriving DecidableEq

namespace Operator

def symbol : Operator → String
  | .compare comparison _ => comparison.symbol
  | .oneOf _ => "IN"

/-- The place of an operator's kind in the canonical order, membership last. -/
def rank : Operator → Nat
  | .compare comparison _ => comparison.rank
  | .oneOf _ => 6

def operands : Operator → List Value
  | .compare _ operand => [operand]
  | .oneOf operands => operands

end Operator

inductive MalformedSet where
  | noOperators
  | emptyList
deriving DecidableEq, Repr

namespace MalformedSet

def reason : MalformedSet → String
  | .noOperators => "operator set is empty"
  | .emptyList => "IN list is empty"

def message (fault : MalformedSet) : String :=
  s!"invalid condition: {fault.reason}"

end MalformedSet

/-- At most one operator of each kind, in the canonical order of kinds. -/
structure OperatorSet where
  toList : List Operator
  increasing : (toList.map Operator.rank).Pairwise (· < ·)
deriving DecidableEq

namespace OperatorSet

def empty : OperatorSet := ⟨[], .nil⟩

/-- Adds an operator in place of one of its kind. -/
def add (set : OperatorSet) (added : Operator) : OperatorSet where
  toList := putInOrder Operator.rank set.toList added
  increasing := putInOrder_increasing Operator.rank set.toList added set.increasing

/-- The set of a list's operators, the last of each kind. A list without values anywhere in
it makes it malformed. -/
def ofList (operators : List Operator) : Except MalformedSet OperatorSet :=
  if operators.isEmpty then .error .noOperators
  else if operators.any (·.operands.isEmpty) then .error .emptyList
  else .ok (operators.foldl add empty)

end OperatorSet

end TypedSelect
