import TypedSelect.Json.Numeral

/-! The marks, texts and plain values that a JSON text is made of. -/
namespace TypedSelect.Json

inductive Token where
  | openArray
  | closeArray
  | openObject
  | closeObject
  | colon
  | comma
  | text (value : String)
  | plain (value : Json)

def hexValue (c : Char) : Option Nat :=
  if '0' ≤ c ∧ c ≤ '9' then some (c.toNat - 48)
  else if 'a' ≤ c ∧ c ≤ 'f' then some (c.toNat - 87)
  else if 'A' ≤ c ∧ c ≤ 'F' then some (c.toNat - 55)
  else none

def codeUnit (a b c d : Char) : Option Nat := do
  some (4096 * (← hexValue a) + 256 * (← hexValue b) + 16 * (← hexValue c) + (← hexValue d))

def ofEscape (c : Char) : Option Char :=
  if c = '\x22' ∨ c = '\\' ∨ c = '/' then some c
  else if c = 'b' then some '\x08'
  else if c = 'f' then some '\x0c'
  else if c = 'n' then some '\n'
  else if c = 'r' then some '\r'
  else if c = 't' then some '\t'
  else none

/-- The character of two code units, the first of the high and the second of the low half. -/
def ofPair (high low : Nat) : Option Char :=
  if 0xDC00 ≤ low ∧ low < 0xE000 then
    some (Char.ofNat (0x10000 + 1024 * (high - 0xD800) + (low - 0xDC00)))
  else none

/-- One character of a quoted text and what follows it, after the escape mark if it has one. -/
def readEscape : List Char → Option (Char × List Char)
  | 'u' :: a :: b :: c :: d :: rest => do
    let unit ← codeUnit a b c d
    if unit < 0xD800 ∨ 0xE000 ≤ unit then some (Char.ofNat unit, rest)
    else if 0xDC00 ≤ unit then none
    else match rest with
      | '\\' :: 'u' :: e :: f :: g :: h :: after => do
        let other ← codeUnit e f g h
        (ofPair unit other).map (·, after)
      | _ => none
  | c :: rest => (ofEscape c).map (·, rest)
  | [] => none

theorem readEscape_shorter {text rest : List Char} {c : Char}
    (h : readEscape text = some (c, rest)) : rest.length < text.length := by
  unfold readEscape at h
  split at h
  · simp only [Option.bind_eq_bind, Option.bind_eq_some_iff] at h
    obtain ⟨unit, -, h⟩ := h
    split at h
    · simp only [Option.some.injEq, Prod.mk.injEq] at h
      simp only [List.length_cons, ← h.2]; omega
    · split at h
      · simp at h
      · split at h
        · simp only [Option.bind_eq_some_iff, Option.map_eq_some_iff, Prod.mk.injEq] at h
          obtain ⟨other, -, d, -, -, rfl⟩ := h
          simp only [List.length_cons]; omega
        · simp at h
  · simp only [Option.map_eq_some_iff, Prod.mk.injEq] at h
    obtain ⟨d, -, -, rfl⟩ := h
    simp
  · simp at h

/-- The content of a quoted text, from after the opening quote, and what follows the
closing one. Control characters must be escaped. -/
def readQuoted (text : List Char) : Option (List Char × List Char) :=
  match text with
  | [] => none
  | '\x22' :: rest => some ([], rest)
  | '\\' :: rest =>
    match h : readEscape rest with
    | some (c, after) =>
      have := readEscape_shorter h
      (readQuoted after).map fun (content, after) => (c :: content, after)
    | none => none
  | c :: rest =>
    if c.toNat < 0x20 then none
    else (readQuoted rest).map fun (content, after) => (c :: content, after)
termination_by text.length
decreasing_by all_goals simp only [List.length_cons]; omega

theorem readQuoted_shorter {text content rest : List Char}
    (h : readQuoted text = some (content, rest)) : rest.length < text.length := by
  fun_induction readQuoted text generalizing content rest with
  | case1 => simp at h
  | case2 => simp at h; simp [h.2]
  | case3 text c after _ shorter ih =>
    simp only [Option.map_eq_some_iff, Prod.exists, Prod.mk.injEq] at h
    obtain ⟨inner, tail, found, -, rfl⟩ := h
    have := ih found
    simp only [List.length_cons]; omega
  | case4 => simp at h
  | case5 => simp at h
  | case6 c rest _ _ _ ih =>
    simp only [Option.map_eq_some_iff, Prod.exists, Prod.mk.injEq] at h
    obtain ⟨inner, tail, found, -, rfl⟩ := h
    have := ih found
    simp only [List.length_cons]; omega

def isSpace (c : Char) : Bool :=
  c == ' ' || c == '\n' || c == '\t' || c == '\r'

def isWordChar (c : Char) : Bool :=
  c.isAlphanum || c == '+' || c == '-' || c == '.'

def ofWord? (word : List Char) : Option Json :=
  if word = ['n', 'u', 'l', 'l'] then some .null
  else if word = ['t', 'r', 'u', 'e'] then some (.bool true)
  else if word = ['f', 'a', 'l', 's', 'e'] then some (.bool false)
  else ofNumber? word

def markToken (c : Char) : Option Token :=
  if c = '[' then some .openArray
  else if c = ']' then some .closeArray
  else if c = '\x7b' then some .openObject
  else if c = '\x7d' then some .closeObject
  else if c = ':' then some .colon
  else if c = ',' then some .comma
  else none

def tokens (text : List Char) : Option (List Token) :=
  match text with
  | [] => some []
  | c :: rest =>
    if isSpace c then tokens rest
    else if c = '\x22' then
      match h : readQuoted rest with
      | some (content, after) =>
        have := readQuoted_shorter h
        (tokens after).map (.text (String.ofList content) :: ·)
      | none => none
    else if isWordChar c then do
      let value ← ofWord? (c :: rest.takeWhile isWordChar)
      (tokens (rest.dropWhile isWordChar)).map (.plain value :: ·)
    else do
      let mark ← markToken c
      (tokens rest).map (mark :: ·)
termination_by text.length
decreasing_by
  · simp
  · simp only [List.length_cons]; omega
  · have := List.IsSuffix.length_le (List.dropWhile_suffix isWordChar (l := rest))
    simp only [List.length_cons]; omega
  · simp

end TypedSelect.Json
