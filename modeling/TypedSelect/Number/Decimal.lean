/-! Decimal numbers as exact data, and the plain texts they are read from. -/
namespace TypedSelect.Number

/-- The number coefficient × 10 ^ exponent with a sign, which zero has too. -/
structure Decimal where
  negative : Bool
  coefficient : Nat
  exponent : Int
deriving DecidableEq, Repr

/-- The decimal digits of a natural number, without leading zeros. -/
def digits (n : Nat) : List Char :=
  Nat.toDigits 10 n

/-- The value of a run of decimal digits, continuing from one already read. -/
def digitsValue (start : Nat) (run : List Char) : Nat :=
  run.foldl (fun value c => 10 * value + (c.toNat - 48)) start

def splitDigits (text : List Char) : List Char × List Char :=
  text.span Char.isDigit

def integerText (n : Int) : List Char :=
  if n < 0 then '-' :: digits n.natAbs else digits n.natAbs

/-- Digits filled up with zeros on the left to the given width. -/
def padded (width n : Nat) : List Char :=
  List.replicate (width - (digits n).length) '0' ++ digits n

/-- A numeral taken apart: sign, whole digits, the digits after the point and the
exponent, the last two only where the text has them. -/
structure Numeral where
  negative : Bool
  whole : List Char
  fraction : Option (List Char)
  exponent : Option Int

def readExponent (text : List Char) : Option Int :=
  let (negative, rest) := match text with
    | '-' :: rest => (true, rest)
    | '+' :: rest => (false, rest)
    | rest => (false, rest)
  let (run, after) := splitDigits rest
  if run.isEmpty || !after.isEmpty then none
  else
    let size : Int := digitsValue 0 run
    some (if negative then -size else size)

/-- Takes a numeral apart. Whole part, fraction and exponent need a digit each where they
occur; whether a leading zero is in order is left to the caller. -/
def Numeral.read (text : List Char) : Option Numeral := do
  let (negative, unsigned) := match text with
    | '-' :: rest => (true, rest)
    | rest => (false, rest)
  let (whole, afterWhole) := splitDigits unsigned
  guard !whole.isEmpty
  let (fraction, afterFraction) ← match afterWhole with
    | '.' :: rest =>
      let (run, after) := splitDigits rest
      if run.isEmpty then none else some (some run, after)
    | rest => some (none, rest)
  match afterFraction with
  | [] => some ⟨negative, whole, fraction, none⟩
  | mark :: rest =>
    guard (mark = 'e' ∨ mark = 'E')
    let exponent ← readExponent rest
    some ⟨negative, whole, fraction, some exponent⟩

def Numeral.isPlain (numeral : Numeral) : Bool :=
  numeral.whole.head? != some '0' || numeral.whole.length == 1

def Numeral.toDecimal (numeral : Numeral) : Decimal :=
  let fraction := numeral.fraction.getD []
  { negative := numeral.negative
    coefficient := digitsValue (digitsValue 0 numeral.whole) fraction
    exponent := numeral.exponent.getD 0 - fraction.length }

end TypedSelect.Number
