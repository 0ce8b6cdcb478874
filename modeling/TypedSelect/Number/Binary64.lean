import TypedSelect.Number.Rounding
import TypedSelect.Number.Decimal

/-! Floating-point numbers of 64 bits, held as their bit pattern. Arithmetic goes through
the exact value and one rounding. -/
namespace TypedSelect.Number

structure Binary64 where
  bits : UInt64
deriving DecidableEq, Inhabited, Repr

namespace Binary64

def signBit : Nat := 0x8000000000000000

/-- The place of the absolute value among the non-negative numbers. -/
def rank (x : Binary64) : Nat :=
  x.bits.toNat % signBit

def isNegative (x : Binary64) : Bool :=
  decide (signBit ≤ x.bits.toNat)

def isFinite (x : Binary64) : Bool :=
  decide (x.rank < BinaryFormat.double.infinityRank)

def isInfinite (x : Binary64) : Bool :=
  decide (x.rank = BinaryFormat.double.infinityRank)

def isZero (x : Binary64) : Bool :=
  decide (x.rank = 0)

def ofRank (negative : Bool) (rank : Nat) : Binary64 :=
  ⟨UInt64.ofNat (if negative then signBit + rank else rank)⟩

def infinity (negative : Bool) : Binary64 :=
  ofRank negative BinaryFormat.double.infinityRank

def notANumber : Binary64 :=
  ⟨0x7FF8000000000000⟩

/-- The number nearest to a ratio, ties to even, infinity beyond the range. -/
def nearest (negative : Bool) (num den : Nat) : Binary64 :=
  ofRank negative (BinaryFormat.double.nearestRank num den)

def ofInt (n : Int) : Binary64 :=
  nearest (decide (n < 0)) n.natAbs 1

/-- Numerator and denominator of the absolute value of a finite number. -/
def ratio (x : Binary64) : Nat × Nat :=
  let (count, exponent) := BinaryFormat.double.value x.rank
  (count * twoPow exponent.toNat, twoPow (-exponent).toNat)

def neg (x : Binary64) : Binary64 :=
  ofRank (!x.isNegative) x.rank

def mul (x y : Binary64) : Binary64 :=
  nearest (x.isNegative != y.isNegative) (x.ratio.1 * y.ratio.1) (x.ratio.2 * y.ratio.2)

def div (x y : Binary64) : Binary64 :=
  nearest (x.isNegative != y.isNegative) (x.ratio.1 * y.ratio.2) (x.ratio.2 * y.ratio.1)

end Binary64

/-- The rank of the value of a format nearest to a decimal. Powers of ten far outside the
format's range are decided by their size alone. -/
def BinaryFormat.ofDecimal (format : BinaryFormat) (d : Decimal) : Nat :=
  let leading := d.exponent + (digits d.coefficient).length
  if d.coefficient = 0 then 0
  else if 400 < leading then format.infinityRank
  else if leading < -400 then 0
  else format.nearestRank (d.coefficient * tenPow d.exponent.toNat) (tenPow (-d.exponent).toNat)

def Binary64.ofDecimal (d : Decimal) : Binary64 :=
  ofRank d.negative (BinaryFormat.double.ofDecimal d)

/-- The 32-bit number nearest to a decimal, which every 64-bit number's set contains. -/
def Binary64.ofDecimalSingle (d : Decimal) : Binary64 :=
  let rank := BinaryFormat.single.ofDecimal d
  if rank = BinaryFormat.single.infinityRank then infinity d.negative
  else
    let (count, exponent) := BinaryFormat.single.value rank
    nearest d.negative (count * twoPow exponent.toNat) (twoPow (-exponent).toNat)

/-- Reads a number's text by the given rule for decimals; NaN and the infinities have
texts of their own. -/
def Binary64.read (ofDecimal : Decimal → Binary64) (text : String) : Option Binary64 :=
  match text with
  | "NaN" => some notANumber
  | "inf" => some (infinity false)
  | "-inf" => some (infinity true)
  | _ => (Numeral.read text.toList).map (ofDecimal ·.toDecimal)

end TypedSelect.Number
