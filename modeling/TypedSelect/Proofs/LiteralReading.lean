import TypedSelect.Proofs.Lexical

/-! Text literals read back. A reader of literals looks one character ahead to tell a doubled quote
mark from the end of the literal. It reads the texts of text values, where no further quote mark
follows, and takes nothing else for a literal. -/
namespace TypedSelect

namespace Text

/-- Reads on from an opening quote mark to the first one that is not doubled, and gives what stands
before it and what follows it. -/
def readQuoted : List Char → Option (List Char × List Char)
  | [] => none
  | [c] => if c = quoteMark then some ([], []) else none
  | c :: next :: rest =>
    if c ≠ quoteMark then
      (readQuoted (next :: rest)).map fun (text, after) => (c :: text, after)
    else if next = quoteMark then
      (readQuoted rest).map fun (text, after) => (quoteMark :: text, after)
    else some ([], next :: rest)

/-- The content of the literal that a text begins with, and the rest of the text. -/
def readLiteral (input : String) : Option (String × String) :=
  match input.toList with
  | [] => none
  | c :: rest =>
    if c = quoteMark then
      (readQuoted rest).map fun (text, after) => (String.ofList text, String.ofList after)
    else none

theorem readQuoted_other (c : Char) (rest : List Char) (other : c ≠ quoteMark) :
    readQuoted (c :: rest) = (readQuoted rest).map fun (text, after) => (c :: text, after) := by
  cases rest with
  | nil => exact if_neg other
  | cons next rest => exact if_pos other

theorem readQuoted_doubleMark (rest : List Char) :
    readQuoted (quoteMark :: quoteMark :: rest) =
      (readQuoted rest).map fun (text, after) => (quoteMark :: text, after) := rfl

theorem readQuoted_end (rest : List Char) (stops : rest.head? ≠ some quoteMark) :
    readQuoted (quoteMark :: rest) = some ([], rest) := by
  cases rest with
  | nil => rfl
  | cons next rest =>
    have other : next ≠ quoteMark := fun same => stops (congrArg some same)
    exact if_neg other

theorem readQuoted_doubled (text rest : List Char) (stops : rest.head? ≠ some quoteMark) :
    readQuoted (doubled text ++ quoteMark :: rest) = some (text, rest) := by
  induction text with
  | nil => exact readQuoted_end rest stops
  | cons c text ih =>
    by_cases quote : c = quoteMark
    · rw [quote, doubled_quoteMark, List.cons_append, List.cons_append, readQuoted_doubleMark, ih]
      rfl
    · rw [doubled_other c text quote, List.cons_append, readQuoted_other c _ quote, ih]
      rfl

private theorem continued_some (c : Char) (read : Option (List Char × List Char))
    (text rest : List Char) :
    (read.map fun (text, after) => (c :: text, after)) = some (text, rest) ↔
      ∃ inner, read = some (inner, rest) ∧ text = c :: inner := by
  rw [Option.map_eq_some_iff]
  constructor
  · rintro ⟨⟨inner, after⟩, found, same⟩
    obtain ⟨rfl, rfl⟩ := Prod.mk.inj same
    exact ⟨inner, found, rfl⟩
  · rintro ⟨inner, found, rfl⟩
    exact ⟨_, found, rfl⟩

theorem doubled_of_readQuoted (input text rest : List Char)
    (read : readQuoted input = some (text, rest)) :
    input = doubled text ++ quoteMark :: rest ∧ rest.head? ≠ some quoteMark := by
  -- Along the recursion of the reader, each step of which undoes one step of the writing.
  fun_induction readQuoted input generalizing text with
  | case1 => cases read
  | case2 =>
    cases read
    exact ⟨rfl, by simp⟩
  | case3 => cases read
  | case4 c next tail other ih =>
    obtain ⟨inner, found, rfl⟩ := (continued_some c _ text rest).mp read
    obtain ⟨split, stops⟩ := ih inner found
    exact ⟨by rw [doubled_other c inner other, split, List.cons_append], stops⟩
  | case5 c tail quote ih =>
    obtain ⟨inner, found, rfl⟩ := (continued_some quoteMark _ text rest).mp read
    obtain ⟨split, stops⟩ := ih inner found
    refine ⟨?_, stops⟩
    rw [Classical.not_not.mp quote, doubled_quoteMark, split, List.cons_append, List.cons_append]
  | case6 c next tail quote other =>
    cases read
    refine ⟨?_, by simpa using other⟩
    rw [Classical.not_not.mp quote]
    rfl

theorem readQuoted_iff (input text rest : List Char) :
    readQuoted input = some (text, rest) ↔
      input = doubled text ++ quoteMark :: rest ∧ rest.head? ≠ some quoteMark := by
  constructor
  · exact doubled_of_readQuoted input text rest
  · rintro ⟨rfl, stops⟩
    exact readQuoted_doubled text rest stops

theorem readLiteral_iff (input text rest : String) :
    readLiteral input = some (text, rest) ↔
      input.toList = literal text.toList ++ rest.toList ∧ rest.toList.head? ≠ some quoteMark := by
  have read (chars : List Char) :
      ((readQuoted chars).map fun (text, after) => (String.ofList text, String.ofList after)) =
        some (text, rest) ↔ readQuoted chars = some (text.toList, rest.toList) := by
    simp [Prod.ext_iff, ← String.toList_inj]
  unfold readLiteral literal
  cases input.toList with
  | nil => simp
  | cons c chars =>
    dsimp only
    by_cases quote : c = quoteMark
    · rw [if_pos quote, read, readQuoted_iff, quote, List.cons_append, List.append_assoc,
        List.cons.injEq]
      simp
    · simp [quote]

end Text

namespace Value

theorem toList_literal_text (text : String) :
    (Value.text text).literal.toList = Text.literal text.toList :=
  String.toList_ofList

/-- The literal of a text is read back as that text, with any rest that does not begin with a quote
mark, and nothing but this literal is read as the text; so texts with one literal are one text. -/
theorem text_literal_read (text : String) :
    (∀ input rest, Text.readLiteral input = some (text, rest) ↔
      input = (Value.text text).literal ++ rest ∧ rest.toList.head? ≠ some Text.quoteMark) ∧
    ∀ other, (Value.text text).literal = (Value.text other).literal ↔ text = other := by
  have read (text input rest : String) : Text.readLiteral input = some (text, rest) ↔
      input = (Value.text text).literal ++ rest ∧ rest.toList.head? ≠ some Text.quoteMark := by
    rw [Text.readLiteral_iff, ← String.toList_inj, String.toList_append, toList_literal_text]
  refine ⟨read text, fun other => ⟨fun same => ?_, congrArg (literal ∘ .text)⟩⟩
  have alone (given : String) :
      Text.readLiteral (Value.text given).literal = some (given, "") :=
    (read given _ "").mpr ⟨String.append_empty.symm, by simp⟩
  have both := (alone text).symm.trans (same ▸ alone other)
  exact (Prod.mk.inj (Option.some.inj both)).1

example : Text.readLiteral "'it''s''' AND '';" = some ("it's'", " AND '';") := by decide

end Value

end TypedSelect
