import TypedSelect.Json.Tree

/-! The numbers of a JSON text. Whole numbers of 64 bits are exact. All others become
floating-point numbers: the digits that fit into 64 bits, times or over a power of ten, with
one rounding for each step. -/
namespace TypedSelect.Json

open Number

/-- Continues a number by digits as long as it fits into 64 bits; the digits from the first
that does not fit are returned. -/
def gather (significand : Nat) : List Char → Nat × List Char
  | [] => (significand, [])
  | c :: rest =>
    let next := 10 * significand + (c.toNat - 48)
    if next < UInt64.size then gather next rest else (significand, c :: rest)

def greatestExponent : Nat := 308

def powerOfTen (exponent : Nat) : Binary64 :=
  Binary64.nearest false (tenPow exponent) 1

/-- Division by a power of ten, in steps that are powers themselves representable. -/
def scaleDown (x : Binary64) (exponent : Nat) : Binary64 :=
  if exponent ≤ greatestExponent then x.div (powerOfTen exponent)
  else if x.isZero then x
  else scaleDown (x.div (powerOfTen greatestExponent)) (exponent - greatestExponent)
termination_by exponent
decreasing_by
  have : 0 < greatestExponent := by simp only [greatestExponent]; omega
  omega

/-- Multiplication by a power of ten, none where the range ends. -/
def scaleUp (x : Binary64) (exponent : Nat) : Option Binary64 :=
  if x.isZero then some x
  else if greatestExponent < exponent then none
  else
    let product := x.mul (powerOfTen exponent)
    if product.isInfinite then none else some product

def floatOfNumeral (numeral : Numeral) : Option Binary64 :=
  let fraction := numeral.fraction.getD []
  let (leading, skipped) := gather 0 numeral.whole
  let (significand, unread) := gather leading fraction
  let exponent := numeral.exponent.getD 0 + skipped.length - (fraction.length - unread.length : Nat)
  let x := Binary64.ofInt significand
  let size := if exponent < 0 then some (scaleDown x exponent.natAbs) else scaleUp x exponent.natAbs
  size.map fun x => if numeral.negative then x.neg else x

/-- The tree of a number's text. Minus zero is a floating-point number. -/
def ofNumber? (text : List Char) : Option Json := do
  let numeral ← Numeral.read text
  guard numeral.isPlain
  let size := digitsValue 0 numeral.whole
  let value : Int := if numeral.negative then -size else size
  let fits := Int64.minValue.toInt ≤ value ∧ value < UInt64.size
  let minusZero := numeral.negative ∧ size = 0
  if numeral.fraction.isNone ∧ numeral.exponent.isNone ∧ fits ∧ ¬minusZero then some (.int value)
  else (floatOfNumeral numeral).map .float

end TypedSelect.Json
