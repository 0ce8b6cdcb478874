import TypedSelect.Number.Power

/-! Rounding an exact ratio of naturals to a binary format. The result is a whole
number of steps, each step a power of two, chosen as fine as the format's precision
and its smallest step allow. -/
namespace TypedSelect.Number

/-- The quotient to the nearest whole number; an exact half goes to the even neighbour. -/
def roundHalfEven (num den : Nat) : Nat :=
  let quotient := num / den
  let twice := 2 * (num % den)
  if twice < den ∨ (twice = den ∧ quotient % 2 = 0) then quotient else quotient + 1

def leadingExponent (num den : Nat) : Int :=
  let guess : Int := (num.log2 : Int) - den.log2
  if den * twoPow guess.toNat ≤ num * twoPow (-guess).toNat then guess else guess - 1

/-- A binary floating-point format: how many binary digits a significand has, the
exponent of the smallest step, and the rank that stands for infinity. -/
structure BinaryFormat where
  precision : Nat
  leastExponent : Int
  infinityRank : Nat

/-- The formats of 32 and of 64 bits. A value's rank is its bit pattern without the sign. -/
def BinaryFormat.single : BinaryFormat := ⟨24, -149, 0x7F800000⟩

@[inherit_doc BinaryFormat.single]
def BinaryFormat.double : BinaryFormat := ⟨53, -1074, 0x7FF0000000000000⟩

/-- A ratio rounded to the format's precision, as a count of steps and the exponent of
the step. The count may reach the next power of two, which is again a value of the format. -/
def BinaryFormat.steps (format : BinaryFormat) (num den : Nat) : Nat × Int :=
  let finest := leadingExponent num den - (format.precision - 1)
  let exponent := if num = 0 then format.leastExponent else max finest format.leastExponent
  (roundHalfEven (num * twoPow (-exponent).toNat) (den * twoPow exponent.toNat), exponent)

/-- The rank of the value nearest to a ratio. Ranks count the non-negative values in
order, so the significand of a normal value carries its leading digit into the
exponent's field by addition. -/
def BinaryFormat.nearestRank (format : BinaryFormat) (num den : Nat) : Nat :=
  let (count, exponent) := format.steps num den
  min (count + (exponent - format.leastExponent).toNat * twoPow (format.precision - 1))
    format.infinityRank

def BinaryFormat.value (format : BinaryFormat) (rank : Nat) : Nat × Int :=
  let unit := twoPow (format.precision - 1)
  let binade := rank / unit
  if binade = 0 then (rank, format.leastExponent)
  else (unit + rank % unit, format.leastExponent + (binade - 1 : Nat))

end TypedSelect.Number
