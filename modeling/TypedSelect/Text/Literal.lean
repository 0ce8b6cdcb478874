/-! Text literals of SQL: single quotes around, and every single quote inside doubled. -/
namespace TypedSelect.Text

def quoteMark : Char := '\x27'

/-- The text with every quote mark doubled. -/
def doubled (text : List Char) : List Char :=
  text.flatMap fun c => if c = quoteMark then [quoteMark, quoteMark] else [c]

def literal (text : List Char) : List Char :=
  quoteMark :: (doubled text ++ [quoteMark])

end TypedSelect.Text
