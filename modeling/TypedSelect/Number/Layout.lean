import TypedSelect.Number.Shortest

/-! The text of a floating-point number: which digits, where positional writing ends and
what stands for a whole number is decided by a style. -/
namespace TypedSelect.Number

/-- A way to write numbers. Numbers whose leading digit has an exponent from the range are
written positionally, all numbers if there is no range. -/
structure Style where
  tie : Tie
  positional : Option (Int × Int)
  wholeSuffix : List Char

/-- Digits with the point after the leading ones, zeros filling the gap on either side. -/
def positionalText (wholeSuffix : List Char) (run : List Char) (exponent : Int) : List Char :=
  let point := run.length + exponent
  if 0 ≤ exponent then run ++ List.replicate exponent.toNat '0' ++ wholeSuffix
  else if 0 < point then run.take point.toNat ++ '.' :: run.drop point.toNat
  else '0' :: '.' :: (List.replicate (-point).toNat '0' ++ run)

/-- One digit before the point and a signed exponent. -/
def scientificText (run : List Char) (leading : Int) : List Char :=
  let mantissa := match run with
    | [] => []
    | [d] => [d]
    | d :: rest => d :: '.' :: rest
  let sign := if leading < 0 then '-' else '+'
  mantissa ++ 'e' :: sign :: digits leading.natAbs

def Style.decimalText (style : Style) (d : Decimal) : List Char :=
  let run := digits d.coefficient
  let leading := run.length + d.exponent - 1
  let inRange := match style.positional with
    | none => true
    | some (first, last) => decide (first ≤ leading) && decide (leading ≤ last)
  let body :=
    if inRange then positionalText style.wholeSuffix run d.exponent
    else scientificText run leading
  if d.negative then '-' :: body else body

def Style.text (style : Style) (x : Binary64) : List Char :=
  style.decimalText (shortest style.tie x)

end TypedSelect.Number
