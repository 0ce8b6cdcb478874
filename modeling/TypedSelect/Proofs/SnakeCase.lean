import Mathlib
import TypedSelect.Proofs.DerivationOutcome

/-! Table names in snake case. A type name of ASCII letters and digits that starts with a capital
can be read back from its table name, so that two such types never get one table name. A capital
outside ASCII gets its underscore but stays a capital: only where the type's name has none of these
is the table name free of capitals, and the same when it is put in snake case once more. -/
namespace TypedSelect

namespace Text

theorem isUpper_iff_toNat (c : Char) : c.isUpper = true ↔ 0x41 ≤ c.toNat ∧ c.toNat ≤ 0x5A := by
  simp [Char.isUpper, UInt32.le_iff_toNat_le]

theorem isLower_iff_toNat (c : Char) : c.isLower = true ↔ 0x61 ≤ c.toNat ∧ c.toNat ≤ 0x7A := by
  simp [Char.isLower, UInt32.le_iff_toNat_le]

theorem ascii_of_isAlphanum (c : Char) (inside : c.isAlphanum = true) : c.toNat < 0x80 := by
  simp only [Char.isAlphanum, Char.isAlpha, Bool.or_eq_true, isUpper_iff_toNat, isLower_iff_toNat,
    Char.isDigit_iff_toNat, Char.reduceToNat] at inside
  omega

theorem isUppercase_iff (c : Char) : isUppercase c = true ↔
    (∃ range ∈ uppercaseRanges, range.1 ≤ c.toNat ∧ c.toNat ≤ range.2) ∨
      ∃ range ∈ uppercaseAlternations, (range.1 ≤ c.toNat ∧ c.toNat ≤ range.2) ∧
        (c.toNat - range.1) % 2 = 0 := by
  simp [isUppercase]

/-- In ASCII just the capital letters are uppercase. -/
theorem isUpper_iff_ascii (c : Char) :
    c.isUpper = true ↔ isUppercase c = true ∧ c.toNat < 0x80 := by
  have outside : ∀ range ∈ uppercaseRanges.tail, 0x80 ≤ range.1 := by decide
  have outside' : ∀ range ∈ uppercaseAlternations, 0x80 ≤ range.1 := by decide
  rw [isUpper_iff_toNat, isUppercase_iff]
  constructor
  · rintro ⟨low, high⟩
    exact ⟨.inl ⟨(0x41, 0x5A), List.mem_cons_self, low, high⟩, by omega⟩
  · rintro ⟨⟨range, member, low, high⟩ | ⟨range, member, ⟨low, _⟩, _⟩, ascii⟩
    · rcases List.mem_cons.mp member with rfl | beyond
      · exact ⟨low, high⟩
      · have := outside range beyond
        omega
    · have := outside' range member
      omega

/-- An uppercase character outside ASCII. Lower case is for ASCII letters and leaves it as it is. -/
def isNonAsciiCapital (c : Char) : Bool :=
  isUppercase c && 0x80 ≤ c.toNat

theorem not_isUpper_of_nonAscii (c : Char) (other : isNonAsciiCapital c = true) : ¬ c.isUpper := by
  intro capital
  obtain ⟨_, ascii⟩ := (isUpper_iff_ascii c).mp capital
  simp only [isNonAsciiCapital, Bool.and_eq_true, decide_eq_true_eq] at other
  omega

theorem isUppercase_toLower (c : Char) : isUppercase c.toLower = isNonAsciiCapital c := by
  by_cases capital : c.isUpper = true
  · have small : c.toLower.isLower = true := by simp [Char.isAlpha, capital]
    obtain ⟨_, bound⟩ := (isLower_iff_toNat c.toLower).mp small
    have lowered : ¬ isUppercase c.toLower = true := by
      intro uppercase
      have remains := (isUpper_iff_ascii c.toLower).mpr ⟨uppercase, by omega⟩
      rw [Char.isUpper_toLower_eq_false] at remains
      cases remains
    have inside : ¬ isNonAsciiCapital c = true :=
      fun other => not_isUpper_of_nonAscii c other capital
    rw [Bool.eq_false_iff.mpr lowered, Bool.eq_false_iff.mpr inside]
  · have outside : isUppercase c = true → 0x80 ≤ c.toNat := by
      intro uppercase
      by_contra ascii
      exact capital ((isUpper_iff_ascii c).mpr ⟨uppercase, by omega⟩)
    rw [Char.toLower_eq_of_not_isUpper capital, Bool.eq_iff_iff]
    simpa [isNonAsciiCapital] using outside

theorem snakeChar_uppercase (c : Char) (uppercase : isUppercase c = true) :
    snakeChar c = ['_', c.toLower] :=
  if_pos uppercase

theorem snakeChar_other (c : Char) (other : isUppercase c = false) : snakeChar c = [c] :=
  if_neg (Bool.eq_false_iff.mp other)

/-- Takes every underscore for the sign that the next letter is a capital. -/
def recapitalized : List Char → List Char
  | '_' :: c :: rest => c.toUpper :: recapitalized rest
  | c :: rest => c :: recapitalized rest
  | [] => []

theorem recapitalized_underscore (c : Char) (rest : List Char) :
    recapitalized ('_' :: c :: rest) = c.toUpper :: recapitalized rest := rfl

theorem recapitalized_other (c : Char) (rest : List Char) (other : c ≠ '_') :
    recapitalized (c :: rest) = c :: recapitalized rest := by
  rw [recapitalized]
  exact fun _ _ underscore => absurd underscore other

theorem toUpper_of_isUpper (c : Char) (capital : c.isUpper = true) : c.toLower.toUpper = c := by
  rw [Char.toUpper_toLower_eq_toUpper,
    Char.toUpper_eq_of_not_isLower (Char.not_isLower_of_isUpper capital)]

theorem recapitalized_flatMap_snakeChar (text : List Char)
    (plain : text.all Char.isAlphanum = true) : recapitalized (text.flatMap snakeChar) = text := by
  induction text with
  | nil => rfl
  | cons c rest ih =>
    obtain ⟨inside, others⟩ := Bool.and_eq_true_iff.mp plain
    rw [List.flatMap_cons]
    cases uppercase : isUppercase c with
    | true =>
      have capital := (isUpper_iff_ascii c).mpr ⟨uppercase, ascii_of_isAlphanum c inside⟩
      rw [snakeChar_uppercase c uppercase, List.cons_append, List.singleton_append,
        recapitalized_underscore, toUpper_of_isUpper c capital, ih others]
    | false =>
      have other : c ≠ '_' := by
        rintro rfl
        exact absurd inside (by decide)
      rw [snakeChar_other c uppercase, List.singleton_append, recapitalized_other c _ other,
        ih others]

/-- A name of ASCII letters and digits that starts with a capital. -/
def IsCamelCase (name : String) : Prop :=
  name.toList.head?.any Char.isUpper = true ∧ name.toList.all Char.isAlphanum = true

instance (name : String) : Decidable (IsCamelCase name) :=
  inferInstanceAs (Decidable (_ ∧ _))

/-- The name that was put in snake case, if it was one in camel case. -/
def camelCase (text : List Char) : List Char :=
  recapitalized ('_' :: text)

theorem camelCase_snakeCase (name : String) (camel : IsCamelCase name) :
    camelCase (snakeCase name.toList) = name.toList := by
  obtain ⟨starts, plain⟩ := camel
  cases split : name.toList with
  | nil => simp [split] at starts
  | cons c rest =>
    have capital : c.isUpper = true := by simpa [split] using starts
    -- The first capital alone has no underscore; with one, all are made in the same way.
    have marked : '_' :: snakeCase (c :: rest) = (c :: rest).flatMap snakeChar := by
      rw [List.flatMap_cons, snakeChar_uppercase c ((isUpper_iff_ascii c).mp capital).1]
      rfl
    rw [camelCase, marked, recapitalized_flatMap_snakeChar _ (split ▸ plain)]

theorem snakeCase_inj (first second : String) (camel : IsCamelCase first)
    (camel' : IsCamelCase second) :
    snakeCase first.toList = snakeCase second.toList ↔ first = second := by
  constructor
  · intro same
    rw [← String.toList_inj, ← camelCase_snakeCase first camel, same,
      camelCase_snakeCase second camel']
  · rintro rfl
    rfl

theorem filter_toLower (c : Char) :
    [c.toLower].filter isUppercase = [c].filter isNonAsciiCapital := by
  cases other : isNonAsciiCapital c with
  | false => simp [isUppercase_toLower, other]
  | true =>
    have kept : c.toLower = c := Char.toLower_eq_of_not_isUpper (not_isUpper_of_nonAscii c other)
    have uppercase : isUppercase c = true := by rw [← kept, isUppercase_toLower, other]
    simp [kept, uppercase, other]

theorem filter_snakeChar (c : Char) :
    (snakeChar c).filter isUppercase = [c].filter isNonAsciiCapital := by
  cases uppercase : isUppercase c with
  | true =>
    rw [snakeChar_uppercase c uppercase, List.filter_cons_of_neg (by decide), filter_toLower]
  | false => simp [snakeChar_other c uppercase, isNonAsciiCapital, uppercase]

theorem filter_flatMap_snakeChar (text : List Char) :
    (text.flatMap snakeChar).filter isUppercase = text.filter isNonAsciiCapital := by
  induction text with
  | nil => rfl
  | cons c rest ih =>
    rw [List.flatMap_cons, List.filter_append, filter_snakeChar, ih, ← List.filter_append,
      List.singleton_append]

/-- The capitals that are left are those outside ASCII, in their order. -/
theorem filter_snakeCase (text : List Char) :
    (snakeCase text).filter isUppercase = text.filter isNonAsciiCapital := by
  cases text with
  | nil => rfl
  | cons c rest =>
    rw [snakeCase, ← List.singleton_append, List.filter_append, filter_toLower,
      filter_flatMap_snakeChar, ← List.filter_append, List.singleton_append]

theorem length_snakeChar (c : Char) :
    (snakeChar c).length = if isUppercase c = true then 2 else 1 := by
  cases uppercase : isUppercase c with
  | true => rw [snakeChar_uppercase c uppercase]; rfl
  | false => rw [snakeChar_other c uppercase]; rfl

theorem length_flatMap_snakeChar (text : List Char) :
    (text.flatMap snakeChar).length = text.length + text.countP isUppercase := by
  induction text with
  | nil => rfl
  | cons c rest ih =>
    rw [List.flatMap_cons, List.length_append, length_snakeChar, ih, List.length_cons,
      List.countP_cons]
    split <;> omega

theorem flatMap_snakeChar_eq_self_iff (text : List Char) :
    text.flatMap snakeChar = text ↔ ∀ c ∈ text, isUppercase c = false := by
  constructor
  · intro same c member
    have added : text.countP isUppercase = 0 := by
      have lengths := congrArg List.length same
      rw [length_flatMap_snakeChar] at lengths
      omega
    exact Bool.eq_false_iff.mpr (List.countP_eq_zero.mp added c member)
  · intro lower
    induction text with
    | nil => rfl
    | cons c rest ih =>
      obtain ⟨first, others⟩ := List.forall_mem_cons.mp lower
      rw [List.flatMap_cons, snakeChar_other c first, ih others, List.singleton_append]

private theorem none_of_filter_eq (p q : Char → Bool) (text other : List Char)
    (same : text.filter p = other.filter q) :
    (∀ c ∈ text, p c = false) ↔ ∀ c ∈ other, q c = false := by
  simp only [← Bool.not_eq_true, ← List.filter_eq_nil_iff, same]

theorem snakeCase_again_iff (text : List Char) :
    snakeCase (snakeCase text) = snakeCase text ↔ ∀ c ∈ text.tail, isNonAsciiCapital c = false := by
  cases text with
  | nil => simp [snakeCase]
  | cons c rest =>
    rw [snakeCase, snakeCase, Char.toLower_toLower_eq_toLower, List.cons_inj_right,
      flatMap_snakeChar_eq_self_iff, List.tail_cons]
    exact none_of_filter_eq _ _ _ _ (filter_flatMap_snakeChar rest)

/-- Put in snake case, a name is free of capitals just when it had none outside ASCII, and does not
change any more just when it had none of these after its first character. -/
theorem snakeCase_settled_iff (name : String) :
    ((∀ c ∈ snakeCase name.toList, isUppercase c = false) ↔
      ∀ c ∈ name.toList, isNonAsciiCapital c = false) ∧
    (snakeCase (snakeCase name.toList) = snakeCase name.toList ↔
      ∀ c ∈ name.toList.tail, isNonAsciiCapital c = false) :=
  ⟨none_of_filter_eq _ _ _ _ (filter_snakeCase name.toList), snakeCase_again_iff name.toList⟩

end Text

open Text

namespace Declaration

/-- A declaration of which the name has a capital outside ASCII. -/
def sampleAccented : Declaration where
  kind := .record
  name := "BonÉtat"
  attributes := []
  fields := [⟨"id", .path ["i64"] [], []⟩]

/-- The table name keeps the capital, and once more in snake case gets a second underscore. -/
theorem accented_capital_remains : ∃ derived, sampleAccented.derive = .ok derived ∧
    derived.name = "bon_État" ∧ (∃ c ∈ derived.name.toList, isUppercase c = true) ∧
    snakeCase derived.name.toList = "bon__État".toList :=
  ⟨_, rfl, rfl, ⟨'É', by decide, by decide⟩, by decide⟩

end Declaration

/-- A table name that a type gets when its attributes are in order and none of them gives one. -/
def IsDefaultName (typeName table : String) : Prop :=
  ∃ attributes : List Attribute, (∀ attr ∈ attributes, attr.tableName? = none) ∧
    tableName typeName attributes = .ok table

theorem isDefaultName_iff (typeName table : String) :
    IsDefaultName typeName table ↔ table = String.ofList (snakeCase typeName.toList) := by
  constructor
  · rintro ⟨attributes, unnamed, read⟩
    rw [tableName_ok typeName table attributes read, List.findSome?_eq_none_iff.mpr unnamed,
      Option.getD_none]
  · rintro rfl
    exact ⟨[], List.forall_mem_nil _, rfl⟩

/-- Types with names in camel case have one table name by default only if they have one name. -/
theorem default_names_apart (first second : String) (camel : IsCamelCase first)
    (camel' : IsCamelCase second) :
    (snakeCase first.toList = snakeCase second.toList ↔ first = second) ∧
    ∀ table table', IsDefaultName first table → IsDefaultName second table' →
      (table = table' ↔ first = second) := by
  have names := snakeCase_inj first second camel camel'
  refine ⟨names, fun table table' gets gets' => ?_⟩
  rw [(isDefaultName_iff first table).mp gets, (isDefaultName_iff second table').mp gets',
    String.ofList_inj, names]

/-- Names that differ in nothing but the case of their letters, and attributes that give the table a
name which is not a text. -/
theorem sampleLogs_apart : IsCamelCase "HTTP2Log" ∧ IsCamelCase "Http2Log" ∧
    IsDefaultName "HTTP2Log" "h_t_t_p2_log" ∧ IsDefaultName "Http2Log" "http2_log" ∧
    snakeCase "HTTP2Log".toList ≠ snakeCase "Http2Log".toList ∧ "h_t_t_p2_log" ≠ "http2_log" := by
  have camel : IsCamelCase "HTTP2Log" := by decide
  have camel' : IsCamelCase "Http2Log" := by decide
  have gets : IsDefaultName "HTTP2Log" "h_t_t_p2_log" := ⟨[], by decide, by rfl⟩
  have gets' : IsDefaultName "Http2Log" "http2_log" :=
    ⟨[⟨"table", .items [⟨"name", some .other⟩]⟩], by decide, by rfl⟩
  have distinct : "HTTP2Log" ≠ "Http2Log" := by decide
  obtain ⟨apart, apart'⟩ := default_names_apart "HTTP2Log" "Http2Log" camel camel'
  exact ⟨camel, camel', gets, gets', mt apart.mp distinct,
    mt (apart' _ _ gets gets').mp distinct⟩

/-- With underscores in it a name can have the table name of another. -/
example : snakeCase "AuditEntry".toList = snakeCase "Audit_entry".toList := by decide

end TypedSelect
