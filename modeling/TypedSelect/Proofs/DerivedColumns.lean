import TypedSelect.Declaration.DerivedTable
import TypedSelect.Proofs.RegistryBuild

/-! Tables that are derived from declarations. Every field that is not skipped declares a column,
in order and under a name of its own, and has an accessor that returns this name; so such tables
can be registered together unless two have one name. -/
namespace TypedSelect

/-- The items by which an attribute says something about its field's column. -/
def Attribute.columnItems (attr : Attribute) : List AttributeItem :=
  if attr.path = "column" then
    match attr.body with
    | .items items => items
    | .bare | .assigned => []
  else []

/-- A column attribute is bare or lists items; attributes of other names may have any form. -/
def Attribute.Listed (attr : Attribute) : Prop :=
  attr.path = "column" → attr.body ≠ .assigned

instance (attr : Attribute) : Decidable attr.Listed :=
  inferInstanceAs (Decidable (attr.path = "column" → attr.body ≠ .assigned))

namespace AttributeItem

/-- The text of an item with a given key. -/
def textFor? (key : String) (item : AttributeItem) : Option String :=
  if item.key = key then
    match item.value with
    | some (.text text) => some text
    | _ => none
  else none

theorem text_ok (item : AttributeItem) (text : String) :
    item.text = .ok text ↔ item.value = some (.text text) := by
  unfold AttributeItem.text
  split <;> simp [*]

theorem text_failure (item : AttributeItem) (error : DeclarationError) :
    item.text = .error error ↔
      item.value = none ∧ error = .malformed (.noValue item.key) ∨
        item.value = some .other ∧ error = .malformed (.notText item.key) := by
  unfold AttributeItem.text
  split <;> simp [*, eq_comm]

end AttributeItem

namespace ColumnSettings

/-- What items settle: the last text for each key, and a skip wherever it stands. -/
def settled (items : List AttributeItem) : ColumnSettings where
  name := (items.filterMap (·.textFor? "name")).getLast?
  type := (items.filterMap (·.textFor? "type")).getLast?
  skip := items.any (·.key == "skip")

theorem addItem_settled (items : List AttributeItem) (item : AttributeItem)
    (settings : ColumnSettings) (added : (settled items).addItem item = .ok settings) :
    settings = settled (items ++ [item]) := by
  unfold addItem at added
  split at added
  · rename_i skip
    split at added
    · cases added
    · cases added
      simp [settled, AttributeItem.textFor?, skip]
  · rename_i name
    obtain ⟨text, given, rfl⟩ := (map_success _ _ settings).mp added
    simp [settled, AttributeItem.textFor?, name, (item.text_ok text).mp given]
  · rename_i type
    obtain ⟨text, given, rfl⟩ := (map_success _ _ settings).mp added
    simp [settled, AttributeItem.textFor?, type, (item.text_ok text).mp given]
  · cases added

theorem addItems_settled (items more : List AttributeItem) (settings : ColumnSettings)
    (added : more.foldlM addItem (settled items) = .ok settings) :
    settings = settled (items ++ more) := by
  induction more using List.reverseRecOn generalizing settings with
  | nil =>
    obtain rfl := (ok_success _ settings).mp added
    rw [List.append_nil]
  | append_singleton more item ih =>
    obtain ⟨before, folded, last⟩ := (foldlM_concat addItem more item _ settings).mp added
    obtain rfl := ih before folded
    rw [addItem_settled _ item settings last, List.append_assoc]

theorem addAttribute_listed (settings : ColumnSettings) (attr : Attribute) (listed : attr.Listed) :
    settings.addAttribute attr = attr.columnItems.foldlM addItem settings := by
  unfold addAttribute Attribute.columnItems
  by_cases column : attr.path = "column"
  · rw [if_pos column, if_pos column]
    split
    · rename_i body
      rw [body]
      rfl
    · rename_i body
      exact absurd body (listed column)
    · rename_i body
      rw [body]
  · rw [if_neg column, if_neg column]
    rfl

theorem listed_of_added (settings next : ColumnSettings) (attr : Attribute)
    (added : settings.addAttribute attr = .ok next) : attr.Listed := by
  intro column assigned
  unfold addAttribute at added
  rw [if_pos column, assigned] at added
  cases added

theorem ofAttributes_settled (attributes : List Attribute) (settings : ColumnSettings)
    (read : ofAttributes attributes = .ok settings) :
    settings = settled (attributes.flatMap (·.columnItems)) := by
  induction attributes using List.reverseRecOn generalizing settings with
  | nil =>
    obtain rfl := (ok_success _ settings).mp read
    rfl
  | append_singleton attributes attr ih =>
    obtain ⟨before, folded, last⟩ :=
      (foldlM_concat addAttribute attributes attr none settings).mp read
    obtain rfl := ih before folded
    rw [List.flatMap_append, List.flatMap_singleton]
    rw [addAttribute_listed _ attr (listed_of_added _ settings attr last)] at last
    exact addItems_settled _ _ settings last

end ColumnSettings

namespace Field

/-- What the column attributes of a field settle, taken together. -/
def settings (field : Field) : ColumnSettings :=
  .settled (field.attributes.flatMap (·.columnItems))

def columnName (field : Field) : String :=
  field.settings.name.getD field.name

/-- The column that a field stands for. -/
structure Declares (field : Field) (column : Column) : Prop where
  name : column.name = field.columnName
  type : field.columnType field.settings = .ok column.type

end Field

theorem addField_ok (columns next : List FieldColumn) (field : Field)
    (added : addField columns field = .ok next) :
    if field.settings.skip then next = columns
    else ∃ column, field.Declares column ∧ column.name ∉ columns.map (·.column.name) ∧
      next = columns ++ [⟨field.name, column⟩] := by
  obtain ⟨settings, read, added⟩ := (bind_success _ _ _).mp added
  obtain rfl : settings = field.settings :=
    ColumnSettings.ofAttributes_settled field.attributes settings read
  dsimp only at added
  split
  · rename_i skipped
    rw [if_pos skipped] at added
    exact (ok_success columns next).mp added
  · rename_i kept
    rw [if_neg kept] at added
    split at added
    · cases added
    · rename_i fresh
      obtain ⟨type, found, added⟩ := (bind_success _ _ _).mp added
      exact ⟨⟨field.columnName, type⟩, ⟨rfl, found⟩, fresh, (ok_success _ next).mp added⟩

theorem addFields_ok (fields : List Field) (columns : List FieldColumn)
    (added : fields.foldlM addField [] = .ok columns) :
    List.Forall₂ (fun field column => column.field = field.name ∧ field.Declares column.column)
        (fields.filter (!·.settings.skip)) columns ∧
      (columns.map (·.column.name)).Nodup := by
  induction fields using List.reverseRecOn generalizing columns with
  | nil =>
    obtain rfl := (ok_success [] columns).mp added
    exact ⟨.nil, List.nodup_nil⟩
  | append_singleton fields field ih =>
    obtain ⟨before, folded, last⟩ := (foldlM_concat addField fields field [] columns).mp added
    obtain ⟨declared, distinct⟩ := ih before folded
    have outcome := addField_ok before columns field last
    split at outcome
    · rename_i skipped
      obtain rfl := outcome
      simpa [skipped] using ⟨declared, distinct⟩
    · rename_i kept
      obtain ⟨column, declares, fresh, rfl⟩ := outcome
      constructor
      · rw [List.filter_append]
        refine List.rel_append declared ?_
        simpa [kept] using declares
      · rw [List.map_append, List.map_singleton, ← List.concat_eq_append, List.nodup_concat]
        exact ⟨fresh, distinct⟩

theorem Table.ofColumns_eq (name : String) (columns : List Column) :
    ofColumns name columns = ⟨name, columns⟩ := by
  unfold ofColumns
  induction columns using List.reverseRecOn with
  | nil => rfl
  | append_singleton columns column ih =>
    rw [List.foldl_append, ih]
    rfl

namespace DerivedTable

@[simp]
theorem toTable_name (derived : DerivedTable) : derived.toTable.name = derived.name := by
  rw [toTable, Table.ofColumns_eq]

@[simp]
theorem toTable_columns (derived : DerivedTable) :
    derived.toTable.columns = derived.tableColumns := by
  rw [toTable, Table.ofColumns_eq]

theorem names_toTable (tables : List DerivedTable) :
    (tables.map (·.toTable)).map (·.name) = tables.map (·.name) := by
  simp [Function.comp_def]

end DerivedTable

namespace Declaration

/-- The fields that are not skipped. -/
def keptFields (declaration : Declaration) : List Field :=
  declaration.fields.filter (!·.settings.skip)

def fieldAccessors (declaration : Declaration) : List Accessor :=
  declaration.keptFields.map fun field => ⟨field.name, field.columnName⟩

/-- What the table of a declaration has for its fields. -/
structure Derives (declaration : Declaration) (derived : DerivedTable) : Prop where
  columns : List.Forall₂ Field.Declares declaration.keptFields derived.tableColumns
  distinct : (derived.tableColumns.map (·.name)).Nodup
  tableAccessors : derived.tableAccessors =
    ⟨"table_name", derived.name⟩ :: declaration.fieldAccessors
  rowAccessors : derived.rowAccessors = ⟨"table", derived.typeName⟩ :: declaration.fieldAccessors
  results : declaration.fieldAccessors.map (·.result) = derived.tableColumns.map (·.name)

theorem derives (declaration : Declaration) (derived : DerivedTable)
    (accepted : declaration.derive = .ok derived) : declaration.Derives derived := by
  obtain ⟨name, _, accepted⟩ := (bind_success _ _ _).mp accepted
  split at accepted
  · obtain ⟨columns, added, accepted⟩ := (bind_success _ _ _).mp accepted
    obtain rfl := (ok_success _ derived).mp accepted
    obtain ⟨declared, distinct⟩ := addFields_ok declaration.fields columns added
    have accessors : columns.map (fun c => Accessor.mk c.field c.column.name) =
        declaration.fieldAccessors := by
      rw [fieldAccessors, eq_comm, ← List.forall₂_eq_eq_eq, List.forall₂_map_left_iff,
        List.forall₂_map_right_iff]
      refine declared.imp fun field column said => ?_
      rw [said.1, said.2.name]
    exact {
      columns := List.forall₂_map_right_iff.mpr (declared.imp fun _ _ said => said.2)
      distinct := by simpa [DerivedTable.tableColumns, Function.comp_def] using distinct
      tableAccessors := congrArg (List.cons _) accessors
      rowAccessors := congrArg (List.cons _) accessors
      results := by simp [← accessors, DerivedTable.tableColumns] }
  all_goals cases accepted

theorem methods_fieldAccessors (declaration : Declaration) :
    declaration.fieldAccessors.map (·.method) = declaration.keptFields.map (·.name) := by
  simp [fieldAccessors]

theorem methods_distinct (declaration : Declaration)
    (distinct : (declaration.fields.map (·.name)).Nodup) :
    (declaration.fieldAccessors.map (·.method)).Nodup := by
  rw [methods_fieldAccessors]
  exact distinct.sublist (List.filter_sublist.map _)

end Declaration

namespace DerivedTable

/-- Derived tables can be registered together unless two have one name, which the error then
says; the registry gives for each name the columns that its table declares. -/
structure Registers (tables : List DerivedTable) : Prop where
  built_iff : (∃ registry, Registry.build (tables.map (·.toTable)) = .ok registry) ↔
    (tables.map (·.name)).Nodup
  failure : ∀ error, Registry.build (tables.map (·.toTable)) = .error error →
    ∃ before derived after, tables = before ++ derived :: after ∧
      (before.map (·.name)).Nodup ∧ derived.name ∈ before.map (·.name) ∧
      error = .duplicateTable derived.name
  columnsOf : ∀ registry, Registry.build (tables.map (·.toTable)) = .ok registry →
    ∀ derived ∈ tables, registry.columnsOf derived.name = .ok derived.tableColumns

theorem registers (tables : List DerivedTable)
    (declared : ∀ derived ∈ tables, (derived.tableColumns.map (·.name)).Nodup) :
    Registers tables := by
  have distinct : ∀ table ∈ tables.map (·.toTable), table.columnNames.Nodup := by
    intro table member
    obtain ⟨derived, inside, rfl⟩ := List.mem_map.mp member
    rw [Table.columnNames, toTable_columns]
    exact declared derived inside
  constructor
  · rw [Registry.built_iff, names_toTable, and_iff_left distinct]
  · intro error failed
    obtain ⟨before, table, after, split, apart, taken, rfl⟩ :=
      Registry.build_failure _ error distinct failed
    obtain ⟨before, last, rfl, rfl, more⟩ := List.map_eq_append_iff.mp split
    obtain ⟨derived, after, rfl, rfl, rfl⟩ := List.map_eq_cons_iff.mp more
    rw [names_toTable] at apart taken
    rw [toTable_name] at taken ⊢
    exact ⟨before, derived, after, rfl, apart, taken, rfl⟩
  · intro registry built derived member
    have registered : derived.toTable ∈ registry.tables := by
      rw [(Registry.build_ok _ registry).mp built]
      exact List.mem_map_of_mem member
    have found := registry.columnsOf_of_mem derived.toTable registered
    rwa [toTable_name, toTable_columns] at found

/-- A derived table has a column for each field that is not skipped, named and accessed alike, and
fits into a registry with all others of other names. -/
theorem derived_fits :
    (∀ (declaration : Declaration) (derived : DerivedTable),
      (declaration.fields.map (·.name)).Nodup → declaration.derive = .ok derived →
        declaration.Derives derived ∧ (declaration.fieldAccessors.map (·.method)).Nodup) ∧
    ∀ tables : List DerivedTable,
      (∀ derived ∈ tables, ∃ declaration : Declaration, declaration.derive = .ok derived) →
        Registers tables := by
  constructor
  · intro declaration derived distinct accepted
    exact ⟨declaration.derives derived accepted, declaration.methods_distinct distinct⟩
  · intro tables accepted
    apply registers
    intro derived member
    obtain ⟨declaration, accepted⟩ := accepted derived member
    exact (declaration.derives derived accepted).distinct

/-- Fields that are renamed, skipped or given a type, under a name that is given as well. -/
def sampleSession : Declaration where
  kind := .record
  name := "Session"
  attributes := [⟨"derive", .items [⟨"Clone", none⟩]⟩,
    ⟨"table", .items [⟨"name", some (.text "sessions")⟩]⟩]
  fields := [
    ⟨"id", .path ["i64"] [], []⟩,
    ⟨"user_id", .path ["Option"] [.path ["i64"] []],
      [⟨"column", .items [⟨"name", some (.text "userId")⟩]⟩]⟩,
    ⟨"expires_at", .path ["i64"] [],
      [⟨"column", .items [⟨"name", some (.text "id")⟩, ⟨"type", some (.text "date")⟩]⟩,
        ⟨"column", .items [⟨"name", some (.text "expiresAt")⟩]⟩]⟩,
    ⟨"cached_token", .path ["Vec"] [.path ["u8"] []], [⟨"column", .items [⟨"skip", none⟩]⟩]⟩]

def sampleSessionTable : DerivedTable where
  typeName := "SessionTable"
  rowType := "Session"
  name := "sessions"
  columns := [⟨"id", ⟨"id", .number⟩⟩, ⟨"user_id", ⟨"userId", .number⟩⟩,
    ⟨"expires_at", ⟨"expiresAt", .date⟩⟩]

/-- A declaration that leaves the name of the table to the type. -/
def sampleEntry : Declaration where
  kind := .record
  name := "AuditEntry"
  attributes := []
  fields := [⟨"id", .reference (.path ["std", "string", "String"] []), []⟩]

def sampleEntryTable : DerivedTable where
  typeName := "AuditEntryTable"
  rowType := "AuditEntry"
  name := "audit_entry"
  columns := [⟨"id", ⟨"id", .string⟩⟩]

theorem sampleTables_fit : (sampleSession.fields.map (·.name)).Nodup ∧
    sampleSession.derive = .ok sampleSessionTable ∧ sampleEntry.derive = .ok sampleEntryTable ∧
    sampleSession.Derives sampleSessionTable ∧
    (sampleSession.fieldAccessors.map (·.method)).Nodup ∧
    Registers [sampleSessionTable, sampleEntryTable] := by
  have distinct : (sampleSession.fields.map (·.name)).Nodup := by decide
  have session : sampleSession.derive = .ok sampleSessionTable := by rfl
  have entry : sampleEntry.derive = .ok sampleEntryTable := by rfl
  have fits := derived_fits.1 sampleSession sampleSessionTable distinct session
  refine ⟨distinct, session, entry, fits.1, fits.2, derived_fits.2 _ ?_⟩
  intro derived member
  simp only [List.mem_cons, List.not_mem_nil, or_false] at member
  rcases member with rfl | rfl
  · exact ⟨sampleSession, session⟩
  · exact ⟨sampleEntry, entry⟩

end DerivedTable

end TypedSelect
