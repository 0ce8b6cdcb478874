import Mathlib.Data.List.Forall2
import TypedSelect.Proofs.FirstFailing
import TypedSelect.Proofs.Run
import TypedSelect.Result.Row

/-! How raw rows come through a shape. A row that fits every field comes out with one cell for each
field, in the order of the fields; of any other row the first field that it does not fit is
reported. -/
namespace TypedSelect

section Reading

variable {ε α β : Type} (read : α → Except ε β)

theorem mapM_ok (items : List α) (results : List β) :
    items.mapM read = .ok results ↔
      List.Forall₂ (fun item result => read item = .ok result) items results := by
  induction items generalizing results with
  | nil =>
    rw [List.mapM_nil, List.forall₂_nil_left_iff]
    exact ok_success [] results
  | cons item rest ih =>
    rw [List.mapM_cons, List.forall₂_cons_left_iff]
    simp only [bind_success, ih, pure, Except.pure, ok_success, exists_and_left]

/-- Reading a list fails with the error of the first item that cannot be read. -/
theorem mapM_failure (items : List α) (error : ε) :
    items.mapM read = .error error ↔
      ∃ item, FirstFailing (fun item => ∃ result, read item = .ok result) items item ∧
        read item = .error error := by
  induction items with
  | nil => simp [FirstFailing, pure, Except.pure]
  | cons item rest ih =>
    rw [List.mapM_cons, bind_failure]
    simp only [bind_failure, pure, Except.pure, reduceCtorEq, and_false, exists_false, or_false,
      ih, firstFailing_cons]
    cases first : read item with
    | error fault => simp [first]
    | ok value => simp

end Reading

theorem Value.isNull_iff (value : Value) : value.isNull = true ↔ value = .null := by
  cases value <;> simp [isNull, columnType?]

namespace OutputField

/-- What a row has for a field; a missing column stands for null. -/
def valueIn (field : OutputField) (row : RawRow) : Value :=
  (row.get? field.column).getD .null

def Fits (field : OutputField) (row : RawRow) : Prop :=
  field.valueIn row = .null ∨ (field.valueIn row).conformsTo field.type = true

def cell (field : OutputField) (row : RawRow) : String × Value :=
  (field.name, field.valueIn row)

theorem project_ok (field : OutputField) (row : RawRow) (cell : String × Value) :
    field.project row = .ok cell ↔ field.Fits row ∧ cell = field.cell row := by
  unfold project Fits OutputField.cell valueIn
  dsimp only
  rw [← Value.isNull_iff, ← Bool.or_eq_true]
  split
  · rename_i fits
    rw [ok_success]
    exact (and_iff_right fits).symm
  · rename_i unfit
    simp [unfit]

theorem project_failure (field : OutputField) (row : RawRow) (error : RowShapeError) :
    field.project row = .error error ↔
      ¬ field.Fits row ∧ error = ⟨field.name, field.type, (field.valueIn row).literal⟩ := by
  unfold project Fits valueIn
  dsimp only
  rw [← Value.isNull_iff, ← Bool.or_eq_true]
  split
  · rename_i fits
    simp [fits]
  · rename_i unfit
    rw [Except.error.injEq, eq_comm]
    exact (and_iff_right unfit).symm

end OutputField

namespace ResultShape

/-- A raw row and the row of all its fields. -/
structure Projects (shape : ResultShape) (raw : RawRow) (row : Row) : Prop where
  fits : ∀ field ∈ shape.fields, field.Fits raw
  cells : row.cells = shape.fields.map (·.cell raw)

/-- The fault of a raw row is that of the first field that it does not fit. -/
def Misfits (shape : ResultShape) (raw : RawRow) (error : RowShapeError) : Prop :=
  ∃ field, FirstFailing (·.Fits raw) shape.fields field ∧
    let received := (field.valueIn raw).literal
    error = ⟨field.name, field.type, received⟩ ∧
      error.message =
        s!"row field '{field.name}' expected {field.type.name}, received {received}"

theorem project_ok (shape : ResultShape) (raw : RawRow) (row : Row) :
    shape.project raw = .ok row ↔ shape.Projects raw row := by
  have cells (made : List (String × Value)) :
      shape.fields.mapM (OutputField.project · raw) = .ok made ↔
        (∀ field ∈ shape.fields, field.Fits raw) ∧ shape.fields.map (·.cell raw) = made := by
    rw [mapM_ok]
    simp only [OutputField.project_ok, eq_comm (b := OutputField.cell _ raw)]
    rw [List.forall₂_and_left, ← List.forall₂_map_left_iff, List.forall₂_eq_eq_eq]
  unfold project
  rw [map_success]
  constructor
  · rintro ⟨made, projected, rfl⟩
    obtain ⟨fits, same⟩ := (cells made).mp projected
    exact ⟨fits, same.symm⟩
  · rintro ⟨fits, same⟩
    exact ⟨row.cells, (cells row.cells).mpr ⟨fits, same.symm⟩, rfl⟩

theorem project_failure (shape : ResultShape) (raw : RawRow) (error : RowShapeError) :
    shape.project raw = .error error ↔ shape.Misfits raw error := by
  have passes : (fun field : OutputField => ∃ cell, field.project raw = .ok cell) =
      (·.Fits raw) := by
    funext field
    simp [OutputField.project_ok]
  unfold project Misfits
  rw [map_failure, mapM_failure, passes]
  refine exists_congr fun field => and_congr_right fun first => ?_
  obtain ⟨_, _, _, _, unfit⟩ := first
  rw [OutputField.project_failure, and_iff_right unfit]
  refine (and_iff_left_of_imp ?_).symm
  rintro rfl
  rfl

end ResultShape

end TypedSelect
