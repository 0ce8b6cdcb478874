/-! Powers of the two bases that numbers are written in. -/
namespace TypedSelect.Number

def twoPow (exponent : Nat) : Nat := Nat.pow 2 exponent

def tenPow (exponent : Nat) : Nat := Nat.pow 10 exponent

end TypedSelect.Number
