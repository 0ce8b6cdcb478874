import TypedSelect.Proofs.DerivedColumns

/-! The names of the methods that a derived table and its row type have. Those for the fields are
told apart by the fields' names, but each type has one method more, for the table, and no check
keeps a field from being named like it: such a declaration is accepted, with a method twice. -/
namespace TypedSelect

/-- The identifier that a field's name spells, with or without the mark of a raw identifier. -/
def Field.identifier (field : Field) : String :=
  plainName field.name

@[inherit_doc Field.identifier]
def Accessor.identifier (accessor : Accessor) : String :=
  plainName accessor.method

namespace Declaration

theorem identifiers_fieldAccessors (declaration : Declaration) :
    declaration.fieldAccessors.map (·.identifier) = declaration.keptFields.map (·.identifier) := by
  simp [fieldAccessors, Accessor.identifier, Field.identifier]

/-- A method that is there beside those for the fields. -/
theorem method_apart_iff (declaration : Declaration) (method result : String)
    (plain : plainName method = method)
    (distinct : (declaration.fields.map (·.identifier)).Nodup) :
    ((⟨method, result⟩ :: declaration.fieldAccessors).map (·.identifier)).Nodup ↔
      method ∉ declaration.keptFields.map (·.identifier) := by
  have apart : (declaration.keptFields.map (·.identifier)).Nodup :=
    distinct.sublist (List.filter_sublist.map _)
  have own : Accessor.identifier ⟨method, result⟩ = method := plain
  rw [List.map_cons, own, identifiers_fieldAccessors, List.nodup_cons, and_iff_left apart]

/-- The table type has no method twice just when no field that is not skipped is named as its method
for the table's name is, and the row type when none is named as its method for the table is. -/
theorem methods_apart_iff (declaration : Declaration) (derived : DerivedTable)
    (distinct : (declaration.fields.map (·.identifier)).Nodup)
    (accepted : declaration.derive = .ok derived) :
    ((derived.tableAccessors.map (·.identifier)).Nodup ↔
      "table_name" ∉ declaration.keptFields.map (·.identifier)) ∧
    ((derived.rowAccessors.map (·.identifier)).Nodup ↔
      "table" ∉ declaration.keptFields.map (·.identifier)) := by
  have derives := declaration.derives derived accepted
  rw [derives.tableAccessors, derives.rowAccessors]
  exact ⟨declaration.method_apart_iff _ _ (by decide) distinct,
    declaration.method_apart_iff _ _ (by decide) distinct⟩

/-- A field that is named as the table type's method, and a skipped one that is named as the row
type's. -/
def sampleVenue : Declaration where
  kind := .record
  name := "Venue"
  attributes := []
  fields := [⟨"id", .path ["i64"] [], []⟩,
    ⟨"r#table_name", .path ["String"] [], [⟨"column", .items [⟨"name", some (.text "label")⟩]⟩]⟩,
    ⟨"table", .path ["u32"] [], [⟨"column", .items [⟨"skip", none⟩]⟩]⟩]

def sampleVenueTable : DerivedTable where
  typeName := "VenueTable"
  rowType := "Venue"
  name := "venue"
  columns := [⟨"id", ⟨"id", .number⟩⟩, ⟨"r#table_name", ⟨"label", .string⟩⟩]

theorem sampleVenue_apart : (sampleVenue.fields.map (·.identifier)).Nodup ∧
    sampleVenue.derive = .ok sampleVenueTable ∧
    ¬ (sampleVenueTable.tableAccessors.map (·.identifier)).Nodup ∧
    (sampleVenueTable.rowAccessors.map (·.identifier)).Nodup := by
  have distinct : (sampleVenue.fields.map (·.identifier)).Nodup := by decide
  have accepted : sampleVenue.derive = .ok sampleVenueTable := by rfl
  obtain ⟨table, row⟩ := methods_apart_iff sampleVenue sampleVenueTable distinct accepted
  exact ⟨distinct, accepted, fun apart => table.mp apart (by decide), row.mpr (by decide)⟩

def sampleReservation : Declaration where
  kind := .record
  name := "Reservation"
  attributes := []
  fields := [⟨"id", .path ["i64"] [], []⟩, ⟨"table", .path ["i64"] [], []⟩]

/-- A field named table is accepted and gives the row type two methods of this name. -/
theorem field_repeats_method : (sampleReservation.fields.map (·.name)).Nodup ∧
    ∃ derived, sampleReservation.derive = .ok derived ∧
      derived.rowAccessors = [⟨"table", "ReservationTable"⟩, ⟨"id", "id"⟩, ⟨"table", "table"⟩] ∧
      ¬ (derived.rowAccessors.map (·.method)).Nodup :=
  ⟨by decide, _, rfl, rfl, by decide⟩

end Declaration

end TypedSelect
