import TypedSelect.Form.Result
import TypedSelect.Proofs.OutputShape
import TypedSelect.Proofs.ProjectionOutcome
import TypedSelect.Proofs.TimestampText

/-! The JSON form of a projected row. Null stands in it for what the raw row lacks and for nothing
else, as numbers without a JSON form do not come through a projection; and no key is repeated where
the shape is that of a query. -/
namespace TypedSelect

open Number Time

/-- JSON values of a column type. -/
inductive Json.OfType : Json → ColumnType → Prop where
  | int (value : Int) : OfType (.int value) .number
  | float (x : Binary64) (finite : x.isFinite = true) : OfType (.float x) .number
  | bool (value : Bool) : OfType (.bool value) .boolean
  | string (value : String) : OfType (.text value) .string
  | date (value : String) : OfType (.text value) .date

/-- A value and how it is written in a row: a date as in its literal, without the quote marks. -/
inductive Value.WrittenAs : Value → Json → Prop where
  | null : WrittenAs .null .null
  | bool (value : Bool) : WrittenAs (.bool value) (.bool value)
  | int (value : Int64) : WrittenAs (.int value) (.int value.toInt)
  | float (x : Binary64) : WrittenAs (.float x) (.float x)
  | text (value : String) : WrittenAs (.text value) (.text value)
  | date (instant : Instant) (text : String)
    (quoted : (Value.date instant).literal = "'" ++ text ++ "'") :
    WrittenAs (.date instant) (.text text)

/-- What a row has for a field of a type, given what the raw row holds in the field's column. -/
structure ColumnType.Entry (type : ColumnType) (held : Option Value) (entry : Json) : Prop where
  null : entry = .null ↔ held = none ∨ held = some .null
  typed : entry ≠ .null → entry.OfType type
  written : ∀ value, held = some value → value.WrittenAs entry

namespace Text

theorem doubled_of_not_mem (text : List Char) (unquoted : quoteMark ∉ text) :
    doubled text = text := by
  induction text with
  | nil => rfl
  | cons c rest ih =>
    rw [List.mem_cons, not_or] at unquoted
    rw [doubled_other c rest (Ne.symm unquoted.1), ih unquoted.2]

theorem quoteMark_not_mem_padded (width n : Nat) : quoteMark ∉ padded width n := by
  intro member
  exact absurd (List.all_eq_true.mp (all_isDigit_padded width n) quoteMark member) (by decide)

theorem quoteMark_not_mem_yearText (year : Int) : quoteMark ∉ yearText year := by
  unfold yearText
  split
  · exact quoteMark_not_mem_padded 4 _
  · split
    · exact List.not_mem_cons_of_ne_of_not_mem (by decide) (quoteMark_not_mem_padded 4 _)
    · exact List.not_mem_cons_of_ne_of_not_mem (by decide) (quoteMark_not_mem_padded 4 _)

theorem quoteMark_not_mem_text (t : Instant) : quoteMark ∉ t.text .milliseconds := by
  have mark : quoteMark ≠ '-' ∧ quoteMark ≠ 'T' ∧ quoteMark ≠ ':' ∧ quoteMark ≠ '.' ∧
    quoteMark ≠ 'Z' := by decide
  simp [Instant.text, fractionText, quoteMark_not_mem_yearText, quoteMark_not_mem_padded, mark]

end Text

namespace Value

theorem literal_date (instant : Instant) : (Value.date instant).literal =
    "'" ++ String.ofList (instant.text .milliseconds) ++ "'" := by
  have quoted : "'".toList = [Text.quoteMark] := by decide
  have plain := Text.doubled_of_not_mem _ (Text.quoteMark_not_mem_text instant)
  rw [← String.toList_inj, String.toList_append, String.toList_append, quoted,
    String.toList_ofList, literal, String.toList_ofList, Text.literal, plain]
  rfl

theorem entry_of_present (value : Value) (type : ColumnType) (entry : Json)
    (present : value ≠ .null) (shown : entry ≠ .null) (typed : entry.OfType type)
    (written : value.WrittenAs entry) : type.Entry (some value) entry where
  null := by simp [present, shown]
  typed _ := typed
  written other same := Option.some.inj same ▸ written

theorem entry_of_conforms (value : Value) (type : ColumnType) (conforms : value.Conforms type) :
    type.Entry (some value) value.toPlainJson := by
  cases conforms with
  | bool value => exact entry_of_present _ _ _ nofun nofun (.bool value) (.bool value)
  | int value => exact entry_of_present _ _ _ nofun nofun (.int value.toInt) (.int value)
  | float x finite =>
    -- Without this the form would be null, though there is a value.
    have form : (Value.float x).toPlainJson = .float x := if_pos finite
    rw [form]
    exact entry_of_present _ _ _ nofun nofun (.float x finite) (.float x)
  | text value => exact entry_of_present _ _ _ nofun nofun (.string value) (.text value)
  | date instant =>
    exact entry_of_present _ _ _ nofun nofun (.date _) (.date instant _ (literal_date instant))

end Value

namespace OutputField

theorem entry_of_accepts (field : OutputField) (held : Option Value)
    (accepts : field.Accepts held) : field.type.Entry held (held.getD .null).toPlainJson := by
  cases accepts with
  | missing => exact ⟨by simp [Value.toPlainJson], fun present => absurd rfl present, by simp⟩
  | null =>
    refine ⟨by simp [Value.toPlainJson], fun present => absurd rfl present, fun value same => ?_⟩
    rw [← Option.some.inj same]
    exact .null
  | conforming value conforms => exact value.entry_of_conforms field.type conforms

end OutputField

namespace ResultShape

theorem names_distinct (query : Query) (shape : ResultShape)
    (resolved : query.resultShape = .ok shape) : shape.names.Nodup := by
  unfold Query.resultShape at resolved
  split at resolved
  · cases resolved
  · obtain rfl := Except.ok.inj resolved
    rw [names, fields_resolve]
    exact nodup_map_firstOfEach OutputField.name _

/-- The JSON object of a row that comes through a projection has a member for each field, in their
order and under their names: null where the raw row has nothing or null, and otherwise what it has
as a JSON value of the field's type. Where the fields are those of a query, no name is repeated. -/
theorem row_written (shape : ResultShape) (raw : RawRow) (row : Row)
    (projected : shape.project raw = .ok row) :
    ∃ members, row.toJson = .object members ∧
      List.Forall₂ (fun field member => member.1 = field.name ∧
        field.type.Entry (raw.get? field.column) member.2) shape.fields members ∧
      ∀ query : Query, query.resultShape = .ok shape → (members.map Prod.fst).Nodup := by
  obtain ⟨fits, cells⟩ := (shape.project_ok raw row).mp projected
  refine ⟨row.cells.map fun cell => (cell.1, cell.2.toPlainJson), rfl, ?_, ?_⟩
  · rw [cells, List.map_map, List.forall₂_map_right_iff, List.forall₂_same]
    intro field member
    have accepts := (field.fits_iff raw).mp (fits field member)
    exact ⟨rfl, field.entry_of_accepts _ accepts⟩
  · intro query resolved
    rw [cells, List.map_map, List.map_map]
    exact names_distinct query shape resolved

def visitsRegistry : Registry where
  tables := [⟨"visits", [⟨"id", .number⟩, ⟨"note", .string⟩, ⟨"at", .date⟩, ⟨"paid", .boolean⟩]⟩]
  distinctTables := by decide
  distinctColumns := by decide

def lastInstant : Instant where
  second := lastSecond
  nano := 1999999999
  firstSecond_le := by decide
  le_lastSecond := Int.le_refl _
  nano_lt := by decide
  leap_at_end := by decide

def visit : RawRow :=
  ⟨[("id", .float ⟨0x3ff8000000000000⟩), ("note", .null), ("at", .date lastInstant)]⟩

theorem visit_written : ∃ query shape row members,
    (Query.root visitsRegistry).run [.fromTable "visits", .select ["at", "id", "at", "note"]] =
      .ok query ∧
    query.resultShape = .ok shape ∧ shape.project visit = .ok row ∧
    row.toJson = .object members ∧ (members.map Prod.fst).Nodup ∧
    List.Forall₂ (fun field member => member.1 = field.name ∧
      field.type.Entry (visit.get? field.column) member.2) shape.fields members ∧
    members = [("at", .text "+262142-12-31T23:59:60.999Z"), ("id", .float ⟨0x3ff8000000000000⟩),
      ("note", .null)] := by
  obtain ⟨query, shape, row, reached, resolved, projected, form⟩ : ∃ query shape row,
      (Query.root visitsRegistry).run [.fromTable "visits", .select ["at", "id", "at", "note"]] =
        .ok query ∧
      query.resultShape = .ok shape ∧ shape.project visit = .ok row ∧
      row.toJson = .object [("at", .text "+262142-12-31T23:59:60.999Z"),
        ("id", .float ⟨0x3ff8000000000000⟩), ("note", .null)] :=
    ⟨_, _, _, rfl, rfl, rfl, rfl⟩
  obtain ⟨members, made, entries, distinct⟩ := row_written shape visit row projected
  have same := Json.object.inj (made.symm.trans form)
  exact ⟨query, shape, row, members, reached, resolved, projected, made, distinct query resolved,
    entries, same⟩

end ResultShape

end TypedSelect
