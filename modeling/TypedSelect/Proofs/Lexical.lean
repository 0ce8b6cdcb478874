import TypedSelect.Proofs.Readable
import TypedSelect.Value

/-! The smallest parts of a statement's text: names, counts and literals of values. A literal is
a run of letters, digits, points and minus signs, or stands in quotes; where nothing that could
continue it follows, its text and what follows it can be told apart, whatever the quoted text. -/
namespace TypedSelect

open Number Time

def isWordCharacter (c : Char) : Bool :=
  c.isAlphanum || c == '_'

/-- A name of letters, digits and underscores. -/
def IsWord (name : String) : Prop :=
  name ≠ "" ∧ name.toList.all isWordCharacter = true

instance (name : String) : Decidable (IsWord name) :=
  inferInstanceAs (Decidable (name ≠ "" ∧ _))

theorem head_of_word (name : String) (word : IsWord name) :
    ∃ c rest, name.toList = c :: rest ∧ isWordCharacter c = true := by
  obtain ⟨c, rest, split⟩ := List.exists_cons_of_ne_nil (mt String.toList_eq_nil_iff.mp word.1)
  exact ⟨c, rest, split, List.all_eq_true.mp word.2 c (split ▸ List.mem_cons_self)⟩

theorem readable_name (marks : List String) (ends : Ends isWordCharacter marks) :
    Readable IsWord String.toList id marks := by
  intro first second rest rest' inside inside' opens opens' same
  obtain ⟨sameText, sameRest⟩ := Readable.word isWordCharacter marks ends _ _ rest rest'
    inside.2 inside'.2 opens opens' same
  exact ⟨String.toList_inj.mp sameText, sameRest⟩

namespace Number

theorem all_isDigit_digits (n : Nat) : (digits n).all Char.isDigit = true :=
  List.all_eq_true.mpr fun _ => Nat.isDigit_of_mem_toDigits (by decide) (by decide)

theorem digits_ne_nil (n : Nat) : digits n ≠ [] :=
  Nat.toDigits_ne_nil

theorem digits_injective (m n : Nat) (same : digits m = digits n) : m = n := by
  have read := congrArg (Nat.ofDigitChars 10 · 0) same
  simpa [digits, Nat.ofDigitChars_ten_toDigits] using read

end Number

theorem readable_count (marks : List String) (ends : Ends Char.isDigit marks) :
    Readable (fun _ => True) (fun count : UInt64 => digits count.toNat) id marks := by
  intro first second rest rest' _ _ opens opens' same
  obtain ⟨sameDigits, sameRest⟩ := Readable.word Char.isDigit marks ends _ _ rest rest'
    (all_isDigit_digits first.toNat) (all_isDigit_digits second.toNat) opens opens' same
  exact ⟨UInt64.toNat_inj.mp (digits_injective _ _ sameDigits), sameRest⟩

namespace Text

theorem doubled_quoteMark (text : List Char) :
    doubled (quoteMark :: text) = quoteMark :: quoteMark :: doubled text := rfl

theorem doubled_other (c : Char) (text : List Char) (other : c ≠ quoteMark) :
    doubled (c :: text) = c :: doubled text := by
  unfold doubled
  rw [List.flatMap_cons, if_neg other, List.singleton_append]

/-- A quoted text ends where a quote mark is not followed by another one. -/
theorem doubled_split (first second rest rest' : List Char)
    (stops : rest.head? ≠ some quoteMark) (stops' : rest'.head? ≠ some quoteMark)
    (same : doubled first ++ quoteMark :: rest = doubled second ++ quoteMark :: rest') :
    first = second ∧ rest = rest' := by
  induction first generalizing second with
  | nil =>
    cases second with
    | nil => exact ⟨rfl, (List.cons.inj same).2⟩
    | cons d second =>
      by_cases quote : d = quoteMark
      · rw [quote, doubled_quoteMark] at same
        obtain rfl := (List.cons.inj same).2
        exact absurd rfl stops
      · rw [doubled_other d second quote] at same
        exact absurd (List.cons.inj same).1.symm quote
  | cons c first ih =>
    cases second with
    | nil =>
      by_cases quote : c = quoteMark
      · rw [quote, doubled_quoteMark] at same
        obtain rfl := (List.cons.inj same).2
        exact absurd rfl stops'
      · rw [doubled_other c first quote] at same
        exact absurd (List.cons.inj same).1 quote
    | cons d second =>
      by_cases quote : c = quoteMark <;> by_cases quote' : d = quoteMark
      · rw [quote, quote', doubled_quoteMark, doubled_quoteMark] at same
        obtain ⟨rfl, sameRest⟩ := ih second (List.cons.inj (List.cons.inj same).2).2
        exact ⟨by rw [quote, quote'], sameRest⟩
      · rw [quote, doubled_quoteMark, doubled_other d second quote'] at same
        exact absurd (List.cons.inj same).1.symm quote'
      · rw [quote', doubled_quoteMark, doubled_other c first quote] at same
        exact absurd (List.cons.inj same).1 quote
      · rw [doubled_other c first quote, doubled_other d second quote'] at same
        obtain ⟨rfl, sameRest⟩ := ih second (List.cons.inj same).2
        exact ⟨by rw [(List.cons.inj same).1], sameRest⟩

theorem literal_split (first second rest rest' : List Char)
    (stops : rest.head? ≠ some quoteMark) (stops' : rest'.head? ≠ some quoteMark)
    (same : literal first ++ rest = literal second ++ rest') :
    first = second ∧ rest = rest' := by
  unfold literal at same
  rw [List.cons_append, List.cons_append, List.append_assoc, List.append_assoc] at same
  exact doubled_split first second rest rest' stops stops' (List.cons.inj same).2

end Text

def isPlainCharacter (c : Char) : Bool :=
  c.isAlphanum || c == '-' || c == '.'

def IsPlain (text : List Char) : Prop :=
  text ≠ [] ∧ text.all isPlainCharacter = true

instance (text : List Char) : Decidable (IsPlain text) :=
  inferInstanceAs (Decidable (text ≠ [] ∧ _))

theorem plain_of_isDigit (c : Char) (digit : c.isDigit = true) : isPlainCharacter c = true := by
  unfold isPlainCharacter Char.isAlphanum
  rw [digit]
  simp

theorem plain_digits (n : Nat) : IsPlain (digits n) := by
  refine ⟨digits_ne_nil n, List.all_eq_true.mpr fun c member => ?_⟩
  exact plain_of_isDigit c (List.all_eq_true.mp (all_isDigit_digits n) c member)

theorem plain_append (first second : List Char) (plain : IsPlain first)
    (inside : second.all isPlainCharacter = true) : IsPlain (first ++ second) := by
  refine ⟨List.append_ne_nil_of_left_ne_nil plain.1 second, ?_⟩
  rw [List.all_append, plain.2, inside]
  rfl

theorem plain_minus (text : List Char) (plain : IsPlain text) : IsPlain ('-' :: text) :=
  plain_append ['-'] text (by decide) plain.2

theorem plain_integerText (n : Int) : IsPlain (integerText n) := by
  unfold integerText
  split
  · exact plain_minus _ (plain_digits n.natAbs)
  · exact plain_digits n.natAbs

theorem plain_zeros (count : Nat) : (List.replicate count '0').all isPlainCharacter = true := by
  refine List.all_eq_true.mpr fun c member => ?_
  rw [List.eq_of_mem_replicate member]
  decide

theorem plain_positionalText (run : List Char) (exponent : Int) (plain : IsPlain run) :
    IsPlain (positionalText [] run exponent) := by
  have member := List.all_eq_true.mp plain.2
  unfold positionalText
  split
  · rw [List.append_nil]
    exact plain_append run _ plain (plain_zeros _)
  · dsimp only
    split
    · refine ⟨List.append_ne_nil_of_right_ne_nil _ (List.cons_ne_nil _ _), ?_⟩
      have front (n : Nat) : (run.take n).all isPlainCharacter = true :=
        List.all_eq_true.mpr fun c inside => member c (List.mem_of_mem_take inside)
      have back (n : Nat) : (run.drop n).all isPlainCharacter = true :=
        List.all_eq_true.mpr fun c inside => member c (List.mem_of_mem_drop inside)
      rw [List.all_append, List.all_cons, front, back]
      decide
    · refine plain_append ['0', '.'] (List.replicate _ '0' ++ run) (by decide) ?_
      rw [List.all_append, plain_zeros, plain.2]
      rfl

theorem plain_decimalText (d : Decimal) : IsPlain (Value.numberStyle.decimalText d) := by
  have body := plain_positionalText (digits d.coefficient) d.exponent (plain_digits _)
  change IsPlain (if d.negative then '-' :: _ else _)
  split
  · exact plain_minus _ body
  · exact body

theorem plain_floatText (x : Binary64) : IsPlain (Value.floatText x) := by
  unfold Value.floatText
  split
  · exact plain_decimalText _
  · split
    · split <;> decide
    · decide

def isLiteralCharacter (c : Char) : Bool :=
  isPlainCharacter c || c == Text.quoteMark

theorem literal_plain_or_quoted (value : Value) :
    IsPlain value.literal.toList ∨ ∃ text, value.literal.toList = Text.literal text := by
  cases value with
  | null => exact .inl (by decide)
  | bool value => exact .inl (by cases value <;> decide)
  | int value => exact .inl (String.toList_ofList ▸ plain_integerText value.toInt)
  | float value => exact .inl (String.toList_ofList ▸ plain_floatText value)
  | text value => exact .inr ⟨value.toList, String.toList_ofList⟩
  | date value => exact .inr ⟨value.text .milliseconds, String.toList_ofList⟩

theorem head_of_literal (value : Value) :
    ∃ c rest, value.literal.toList = c :: rest ∧ isLiteralCharacter c = true := by
  rcases literal_plain_or_quoted value with ⟨given, plain⟩ | ⟨text, quoted⟩
  · obtain ⟨c, rest, split⟩ := List.exists_cons_of_ne_nil given
    refine ⟨c, rest, split, ?_⟩
    rw [split] at plain
    simp [isLiteralCharacter, List.all_eq_true.mp plain c List.mem_cons_self]
  · exact ⟨Text.quoteMark, _, quoted, by decide⟩

private theorem plain_ne_quoted (plain text rest rest' : List Char) (given : IsPlain plain) :
    plain ++ rest ≠ Text.literal text ++ rest' := by
  apply ne_of_heads isPlainCharacter
  · obtain ⟨c, tail, rfl⟩ := List.exists_cons_of_ne_nil given.1
    exact ⟨c, tail, rfl, List.all_eq_true.mp given.2 c List.mem_cons_self⟩
  · exact ⟨Text.quoteMark, _, rfl, by decide⟩

/-- The texts of literals can be told from what follows them, if that is not a further character
of a literal. -/
theorem readable_literal (marks : List String) (ends : Ends isLiteralCharacter marks) :
    Readable (fun _ => True) (fun value : Value => value.literal.toList) Value.literal marks := by
  intro first second rest rest' _ _ opens opens' same
  dsimp only at same
  obtain ⟨c, tail, rfl, outside⟩ := head_of_opens isLiteralCharacter marks rest ends opens
  obtain ⟨d, tail', rfl, outside'⟩ := head_of_opens isLiteralCharacter marks rest' ends opens'
  obtain ⟨unplain, unquoted⟩ := Bool.or_eq_false_iff.mp outside
  obtain ⟨unplain', unquoted'⟩ := Bool.or_eq_false_iff.mp outside'
  rcases literal_plain_or_quoted first with plain | ⟨text, quoted⟩ <;>
    rcases literal_plain_or_quoted second with plain' | ⟨text', quoted'⟩
  · obtain ⟨sameText, sameRest⟩ :=
      run_split isPlainCharacter _ _ c d tail tail' plain.2 plain'.2 unplain unplain' same
    exact ⟨String.toList_inj.mp sameText, sameRest⟩
  · rw [quoted'] at same
    exact absurd same (plain_ne_quoted _ text' _ _ plain)
  · rw [quoted] at same
    exact absurd same.symm (plain_ne_quoted _ text _ _ plain')
  · rw [quoted, quoted'] at same
    obtain ⟨rfl, sameRest⟩ := Text.literal_split text text' (c :: tail) (d :: tail')
      (by simpa using unquoted) (by simpa using unquoted') same
    exact ⟨String.toList_inj.mp (quoted.trans quoted'.symm), sameRest⟩

end TypedSelect
