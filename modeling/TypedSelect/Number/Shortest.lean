import TypedSelect.Number.Binary64

/-! The shortest decimal that reads back to a floating-point number. Every number stands
for the interval of reals that round to it; a decimal reads back when it lies there. Grids
of decimals are searched from coarse to fine, and on each only the two neighbours of the
number itself can be nearest to it. -/
namespace TypedSelect.Number

inductive Tie where
  | toEven
  | upward
deriving DecidableEq

/-- A positive number count × 2 ^ exponent in quarter steps, and the interval around it
that rounds to it. Its ends belong to it exactly when the count is even. -/
structure Interval where
  lower : Nat
  middle : Nat
  upper : Nat
  exponent : Int
  closed : Bool

/-- The interval of a finite positive rank. Below a power of two the next number is only
half a step away. -/
def Interval.ofRank (rank : Nat) : Interval :=
  let (count, exponent) := BinaryFormat.double.value rank
  let narrow := decide (count = twoPow 52) && decide (-1074 < exponent)
  { lower := 4 * count - (if narrow then 1 else 2)
    middle := 4 * count
    upper := 4 * count + 2
    exponent := exponent - 2
    closed := decide (count % 2 = 0) }

/-- The two sides of the comparison of n × 10 ^ grid with m × 2 ^ exponent, both whole. -/
def scaled (n : Nat) (grid : Int) (m : Nat) (exponent : Int) : Nat × Nat :=
  (n * tenPow grid.toNat * twoPow (-exponent).toNat,
    m * twoPow exponent.toNat * tenPow (-grid).toNat)

/-- Whether n × 10 ^ grid reads back to the interval's number. -/
def Interval.contains (i : Interval) (n : Nat) (grid : Int) : Bool :=
  let (a, low) := scaled n grid i.lower i.exponent
  let (b, high) := scaled n grid i.upper i.exponent
  if i.closed then decide (low ≤ a) && decide (b ≤ high) else decide (low < a) && decide (b < high)

def Interval.nearer (i : Interval) (tie : Tie) (n : Nat) (grid : Int) : Nat :=
  let (unit, middle) := scaled 1 grid i.middle i.exponent
  if 2 * middle < (2 * n + 1) * unit then n
  else if (2 * n + 1) * unit < 2 * middle then n + 1
  else match tie with
    | .toEven => if n % 2 = 0 then n else n + 1
    | .upward => n + 1

/-- The decimal chosen on one grid, if any of the grid reads back. -/
def Interval.onGrid (i : Interval) (tie : Tie) (grid : Int) : Option Nat :=
  let (unit, middle) := scaled 1 grid i.middle i.exponent
  let n := middle / unit
  match i.contains n grid, i.contains (n + 1) grid with
  | true, true => some (i.nearer tie n grid)
  | true, false => some n
  | false, true => some (n + 1)
  | false, false => none

def Interval.magnitude (i : Interval) : Int :=
  let num := i.middle * twoPow i.exponent.toNat
  let den := twoPow (-i.exponent).toNat
  if num < den then 1 - (digits (den / num)).length else (digits (num / den)).length

/-- Drops trailing zeros, at most as many as the fuel, into the exponent. -/
def stripZeros : Nat → Nat → Int → Nat × Int
  | 0, n, grid => (n, grid)
  | fuel + 1, n, grid => if n % 10 = 0 then stripZeros fuel (n / 10) (grid + 1) else (n, grid)

/-- The decimal of fewest digits that reads back to a finite number, of these the nearest.
Seventeen digits always suffice; eighteen leave room for a magnitude estimated one too high. -/
def shortest (tie : Tie) (x : Binary64) : Decimal :=
  if x.isZero then ⟨x.isNegative, 0, 0⟩
  else
    let i := Interval.ofRank x.rank
    let found := (List.range 18).findSome? fun (size : Nat) =>
      let grid := i.magnitude - (size + 1 : Nat)
      (i.onGrid tie grid).map (·, grid)
    let (n, grid) := found.getD (x.ratio.1, 0)
    let (coefficient, exponent) := stripZeros 20 n grid
    ⟨x.isNegative, coefficient, exponent⟩

end TypedSelect.Number
