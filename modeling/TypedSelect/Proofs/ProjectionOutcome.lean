import TypedSelect.Proofs.Projection
import TypedSelect.Proofs.Restriction

/-! What comes of projecting a raw row, said without the projection. Each field looks at what the row
has in its own column and nowhere else: that must be missing, null or a value of the field's type.
The row that comes out is read by output name, where the first field of a name counts. -/
namespace TypedSelect

/-- Values that can stand in a column of a type. -/
inductive Value.Conforms : Value → ColumnType → Prop
  | bool (value : Bool) : Conforms (.bool value) .boolean
  | int (value : Int64) : Conforms (.int value) .number
  | float (x : Number.Binary64) (finite : x.isFinite = true) : Conforms (.float x) .number
  | text (value : String) : Conforms (.text value) .string
  | date (value : Time.Instant) : Conforms (.date value) .date

theorem Value.conformsTo_iff (value : Value) (type : ColumnType) :
    value.conformsTo type = true ↔ value.Conforms type := by
  constructor
  · intro conforms
    cases value with
    | null => cases conforms
    | float x =>
      simp only [conformsTo, Bool.and_eq_true, beq_iff_eq] at conforms
      obtain ⟨finite, rfl⟩ := conforms
      exact .float x finite
    | bool value => exact Option.some.inj (beq_iff_eq.mp conforms) ▸ .bool value
    | int value => exact Option.some.inj (beq_iff_eq.mp conforms) ▸ .int value
    | text value => exact Option.some.inj (beq_iff_eq.mp conforms) ▸ .text value
    | date value => exact Option.some.inj (beq_iff_eq.mp conforms) ▸ .date value
  · intro conforms
    cases conforms with
    | float x finite => simp [conformsTo, finite]
    | bool | int | text | date => rfl

namespace OutputField

/-- What a row may have in the column of a field. -/
inductive Accepts (field : OutputField) : Option Value → Prop
  | missing : Accepts field none
  | null : Accepts field (some .null)
  | conforming (value : Value) (conforms : value.Conforms field.type) : Accepts field (some value)

theorem fits_iff (field : OutputField) (raw : RawRow) :
    field.Fits raw ↔ field.Accepts (raw.get? field.column) := by
  unfold Fits valueIn
  rw [Value.conformsTo_iff]
  cases raw.get? field.column with
  | none =>
    simp only [Option.getD_none, true_or, true_iff]
    exact .missing
  | some value =>
    constructor
    · rintro (rfl | conforms)
      · exact .null
      · exact .conforming value conforms
    · rintro (_ | _ | ⟨_, conforms⟩)
      · exact .inl rfl
      · exact .inr conforms

theorem Accepts.isFinite {field : OutputField} {x : Number.Binary64}
    (accepts : field.Accepts (some (.float x))) : x.isFinite = true := by
  cases accepts with
  | conforming _ conforms =>
    exact Value.finite_of_conformsTo x field.type ((Value.conformsTo_iff _ _).mpr conforms)

/-- A missing value is accepted, so what is refused is there. -/
theorem get?_of_unfit (field : OutputField) (raw : RawRow) (unfit : ¬ field.Fits raw) :
    raw.get? field.column = some (field.valueIn raw) := by
  unfold Fits at unfit
  unfold valueIn at unfit ⊢
  cases given : raw.get? field.column with
  | none => simp [given] at unfit
  | some value => rfl

theorem project_congr (field : OutputField) (raw other : RawRow)
    (same : other.get? field.column = raw.get? field.column) :
    field.project other = field.project raw := by
  unfold project
  rw [same]

end OutputField

theorem mapM_congr {ε α β : Type} (read other : α → Except ε β) (items : List α)
    (same : ∀ item ∈ items, other item = read item) : items.mapM other = items.mapM read := by
  induction items with
  | nil => rfl
  | cons item rest ih =>
    rw [List.mapM_cons, List.mapM_cons, same item List.mem_cons_self,
      ih fun later member => same later (List.mem_cons_of_mem item member)]

namespace ResultShape

theorem project_congr (shape : ResultShape) (raw other : RawRow)
    (same : ∀ field ∈ shape.fields, other.get? field.column = raw.get? field.column) :
    shape.project other = shape.project raw := by
  have cells := mapM_congr (OutputField.project · raw) (OutputField.project · other) shape.fields
    fun field member => field.project_congr raw other (same field member)
  unfold project
  rw [cells]

theorem lookup_cells (raw : RawRow) (fields : List OutputField) (name : String) :
    (fields.map (·.cell raw)).lookup name =
      (fields.find? (·.name == name)).map (·.valueIn raw) := by
  induction fields with
  | nil => rfl
  | cons field rest ih =>
    rw [List.map_cons, OutputField.cell, List.lookup_cons, List.find?_cons, ih, BEq.comm]
    cases field.name == name <;> rfl

theorem Projects.get? {shape : ResultShape} {raw : RawRow} {row : Row}
    (projects : shape.Projects raw row) (name : String) :
    row.get? name = (shape.field? name).map (·.valueIn raw) := by
  unfold Row.get?
  rw [projects.cells]
  exact lookup_cells raw shape.fields name

/-- A raw row comes through a shape if every field accepts what the row has in its column, which for
a number must be finite, and otherwise the first field that does not is reported. A row that comes
through has a cell for each field, found by the name of the first one; columns that no field refers
to have no influence. -/
theorem projection_decided (shape : ResultShape) (raw : RawRow) :
    ((∃ row, shape.project raw = .ok row) ↔
      ∀ field ∈ shape.fields, field.Accepts (raw.get? field.column)) ∧
    (∀ field ∈ shape.fields, ∀ x, raw.get? field.column = some (.float x) → x.isFinite = false →
      ∃ error, shape.project raw = .error error) ∧
    (∀ row, shape.project raw = .ok row →
      row.cells = shape.fields.map (fun field =>
        (field.name, (raw.get? field.column).getD .null)) ∧
      ∀ name, row.get? name =
        (shape.field? name).map fun field => (raw.get? field.column).getD .null) ∧
    (∀ error, shape.project raw = .error error ↔ ∃ field received,
      FirstFailing (fun field => field.Accepts (raw.get? field.column)) shape.fields field ∧
        raw.get? field.column = some received ∧
        error = ⟨field.name, field.type, received.literal⟩ ∧
        error.message =
          s!"row field '{field.name}' expected {field.type.name}, received {received.literal}") ∧
    ∀ other : RawRow,
      (∀ field ∈ shape.fields, other.get? field.column = raw.get? field.column) →
        shape.project other = shape.project raw := by
  have accepted : (∃ row, shape.project raw = .ok row) ↔
      ∀ field ∈ shape.fields, field.Accepts (raw.get? field.column) := by
    simp only [project_ok, ← OutputField.fits_iff]
    exact ⟨fun ⟨_, projects⟩ => projects.fits, fun fits => ⟨⟨_⟩, fits, rfl⟩⟩
  refine ⟨accepted, ?_, ?_, ?_, shape.project_congr raw⟩
  · intro field member x given infinite
    cases outcome : shape.project raw with
    | error error => exact ⟨error, rfl⟩
    | ok row =>
      have passed := accepted.mp ⟨row, outcome⟩ field member
      rw [given] at passed
      rw [passed.isFinite] at infinite
      cases infinite
  · intro row projected
    have projects := (shape.project_ok raw row).mp projected
    exact ⟨projects.cells, projects.get?⟩
  · intro error
    have passes : (fun field : OutputField => field.Accepts (raw.get? field.column)) =
        (·.Fits raw) := funext fun field => propext (field.fits_iff raw).symm
    rw [project_failure, passes]
    refine exists_congr fun field => ⟨?_, ?_⟩
    · rintro ⟨first, reported⟩
      have ⟨_, _, _, _, unfit⟩ := first
      exact ⟨field.valueIn raw, first, field.get?_of_unfit raw unfit, reported⟩
    · rintro ⟨received, first, given, reported⟩
      have same : field.valueIn raw = received := by rw [OutputField.valueIn, given, Option.getD_some]
      exact ⟨first, same ▸ reported⟩

/-- A name that two fields share, and a column that feeds two fields. -/
def sampleShape : ResultShape where
  fields := [⟨"who", "email", .string⟩, ⟨"key", "id", .number⟩, ⟨"who", "id", .number⟩,
    ⟨"since", "createdAt", .date⟩]

def negativeInfinity : Value :=
  .float ⟨0xfff0000000000000⟩

def sampleRaw (id : Value) : RawRow :=
  ⟨[("id", id), ("email", .null), ("score", .float ⟨0x7ff8000000000000⟩)]⟩

theorem shared_decided : ∃ row error, sampleShape.project (sampleRaw (.int 7)) = .ok row ∧
    row.cells = [("who", .null), ("key", .int 7), ("who", .int 7), ("since", .null)] ∧
    row.get? "who" = some .null ∧ row.get? "score" = none ∧
    sampleShape.project ⟨[("email", .null), ("id", .int 7)]⟩ = .ok row ∧
    sampleShape.project (sampleRaw negativeInfinity) = .error error ∧
    error = ⟨"key", .number, "-inf"⟩ ∧
    error.message = "row field 'key' expected number, received -inf" ∧
    ∃ error', sampleShape.project (sampleRaw (.float ⟨0x7ff8000000000000⟩)) = .error error' := by
  obtain ⟨-, -, read, -, elsewhere⟩ := projection_decided sampleShape (sampleRaw (.int 7))
  obtain ⟨-, -, -, reported, -⟩ := projection_decided sampleShape (sampleRaw negativeInfinity)
  obtain ⟨-, infinite, -⟩ :=
    projection_decided sampleShape (sampleRaw (.float ⟨0x7ff8000000000000⟩))
  obtain ⟨row, projected⟩ : ∃ row, sampleShape.project (sampleRaw (.int 7)) = .ok row := ⟨_, rfl⟩
  obtain ⟨cells, found⟩ := read row projected
  have unscored : ∀ field ∈ sampleShape.fields,
      (RawRow.mk [("email", .null), ("id", .int 7)]).get? field.column =
        (sampleRaw (.int 7)).get? field.column := by decide
  have first : FirstFailing (fun field => field.Accepts ((sampleRaw negativeInfinity).get?
      field.column)) sampleShape.fields ⟨"key", "id", .number⟩ := by
    refine ⟨[⟨"who", "email", .string⟩], _, rfl, ?_, ?_⟩
    · intro earlier member
      obtain rfl := List.mem_singleton.mp member
      exact .null
    · exact fun accepts => absurd accepts.isFinite (by decide)
  have failed := (reported _).mpr ⟨_, negativeInfinity, first, rfl, rfl, rfl⟩
  exact ⟨row, _, projected, cells, found "who", found "score",
    (elsewhere _ unscored).trans projected, failed, rfl, by decide,
    infinite ⟨"key", "id", .number⟩ (by decide) _ rfl rfl⟩

end ResultShape

end TypedSelect
