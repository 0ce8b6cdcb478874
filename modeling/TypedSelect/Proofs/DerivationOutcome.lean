import TypedSelect.Proofs.DerivedColumns

/-! Whether a table can be derived from a declaration whose attributes are in order. It can when the
fields that are not skipped have column names of their own and column types, given or inferred, and
otherwise the first of them that does not fit decides the error. -/
namespace TypedSelect

/-- The names of the types that stand for a column type. -/
def ColumnType.typeNames : ColumnType → List String
  | .number => ["i8", "i16", "i32", "i64", "i128", "isize", "u8", "u16", "u32", "u64", "u128",
      "usize", "f32", "f64"]
  | .string => ["String", "str"]
  | .date => ["NaiveDate", "NaiveDateTime", "DateTime"]
  | .boolean => ["bool"]

theorem namedColumnType?_eq_some (name : String) (type : ColumnType) :
    namedColumnType? name = some type ↔ name ∈ type.typeNames := by
  constructor
  · intro found
    unfold namedColumnType? at found
    split at found
    · cases found
      assumption
    · split at found
      · cases found
        assumption
      · split at found
        · cases found
          exact List.mem_singleton.mpr ‹_›
        · split at found
          · cases found
            assumption
          · cases found
  · have known : ∀ name ∈ type.typeNames, namedColumnType? name = some type := by
      cases type <;> decide
    exact known name

/-- A type stands for a column type when, after references and the first arguments of optional types
are peeled off, a path remains whose last segment does. An optional type is peeled only if its first
argument is a type: a lifetime stands for nothing. -/
inductive FieldType.StandsFor : FieldType → ColumnType → Prop
  | named (segments : List String) (arguments : List FieldType) (name : String) (type : ColumnType)
    (last : segments.getLast? = some name) (known : name ∈ type.typeNames) :
    StandsFor (.path segments arguments) type
  | reference (target : FieldType) (type : ColumnType) (stands : StandsFor target type) :
    StandsFor (.reference target) type
  | optional (segments : List String) (first : FieldType) (others : List FieldType)
    (type : ColumnType) (last : segments.getLast? = some "Option")
    (stands : StandsFor first type) : StandsFor (.path segments (first :: others)) type

theorem FieldType.columnType?_eq_some (fieldType : FieldType) (type : ColumnType) :
    fieldType.columnType? = some type ↔ fieldType.StandsFor type := by
  constructor
  · intro found
    fun_induction columnType? fieldType with
    | case1 target ih => exact .reference target type (ih found)
    | case2 | case4 | case6 => cases found
    | case3 segments first others last ih =>
      exact .optional segments first others type last (ih found)
    | case5 segments arguments name last apart =>
      exact .named segments arguments name type last ((namedColumnType?_eq_some name type).mp found)
  · intro stands
    induction stands with
    | named segments arguments name type last known =>
      -- No known name is that of optional types, so the path is looked up by its name.
      have apart : name ≠ "Option" := by
        rintro rfl
        cases type <;> revert known <;> decide
      unfold columnType?
      simp only [last, if_neg apart]
      exact (namedColumnType?_eq_some name type).mpr known
    | reference target type _ ih => rwa [columnType?]
    | optional segments first others type last _ ih =>
      simp only [columnType?, last, if_true]
      exact ih

/-- The names by which attributes give a column type. -/
def ColumnType.givenNames : List (String × ColumnType) :=
  [("number", .number), ("string", .string), ("date", .date), ("boolean", .boolean)]

theorem ColumnType.ofName?_eq_some (name : String) (type : ColumnType) :
    ofName? name = some type ↔ (name, type) ∈ givenNames := by
  constructor
  · intro found
    obtain rfl : type.name = name := by simpa using List.find?_some found
    cases type <;> decide
  · intro listed
    simp only [givenNames, List.mem_cons, Prod.mk.injEq, List.not_mem_nil, or_false] at listed
    rcases listed with ⟨rfl, rfl⟩ | ⟨rfl, rfl⟩ | ⟨rfl, rfl⟩ | ⟨rfl, rfl⟩ <;> decide

namespace Field

/-- The column type of a field: the one that its attributes name, else the one that its type stands
for. -/
inductive HasType (field : Field) (type : ColumnType) : Prop
  | given (name : String) (named : field.settings.type = some name)
    (listed : (name, type) ∈ ColumnType.givenNames)
  | inferred (unnamed : field.settings.type = none) (stands : field.type.StandsFor type)

/-- What is wrong with a field that comes after others of which the column names are taken, and the
text that says so. A name that is taken is reported before a type. -/
inductive Offends (taken : List String) (field : Field) : Rejection → String → Prop
  | repeated (member : field.columnName ∈ taken) :
    Offends taken field (.duplicateColumn field.columnName)
      s!"duplicate column name '{field.columnName}'"
  | unknownType (fresh : field.columnName ∉ taken) (name : String)
    (given : field.settings.type = some name)
    (unknown : ∀ type, (name, type) ∉ ColumnType.givenNames) :
    Offends taken field (.unknownColumnType name)
      s!"unknown column type '{name}', expected number, string, date or boolean"
  | noType (fresh : field.columnName ∉ taken) (unnamed : field.settings.type = none)
    (unknown : ∀ type, ¬ field.type.StandsFor type) :
    Offends taken field .noColumnType "cannot infer a column type, use #[column(type = \"...\")]"

theorem Offends.message (taken : List String) (field : Field) (reason : Rejection) (text : String)
    (offends : field.Offends taken reason text) : reason.message = text := by
  cases offends <;> rfl

theorem columnType_ok (field : Field) (type : ColumnType) :
    field.columnType field.settings = .ok type ↔ field.HasType type := by
  unfold columnType
  split
  · rename_i name given
    constructor
    · intro found
      split at found
      · rename_i named
        obtain rfl := (ok_success _ type).mp found
        exact .given name given ((ColumnType.ofName?_eq_some name _).mp named)
      · cases found
    · rintro (⟨_, named, listed⟩ | ⟨unnamed, -⟩)
      · obtain rfl := Option.some.inj (given.symm.trans named)
        rw [(ColumnType.ofName?_eq_some name type).mpr listed]
      · rw [given] at unnamed
        cases unnamed
  · rename_i unnamed
    constructor
    · intro found
      split at found
      · rename_i stands
        obtain rfl := (ok_success _ type).mp found
        exact .inferred unnamed ((FieldType.columnType?_eq_some _ _).mp stands)
      · cases found
    · rintro (⟨_, named, _⟩ | ⟨-, stands⟩)
      · rw [unnamed] at named
        cases named
      · rw [(FieldType.columnType?_eq_some _ type).mpr stands]

theorem columnType_failure (field : Field) (taken : List String) (error : DeclarationError)
    (fresh : field.columnName ∉ taken) (failed : field.columnType field.settings = .error error) :
    ∃ reason text, field.Offends taken reason text ∧ error = .rejected reason := by
  unfold columnType at failed
  split at failed
  · rename_i name given
    split at failed
    · cases failed
    · rename_i absent
      cases failed
      refine ⟨_, _, .unknownType fresh name given fun type listed => ?_, rfl⟩
      rw [(ColumnType.ofName?_eq_some name type).mpr listed] at absent
      cases absent
  · rename_i unnamed
    split at failed
    · cases failed
    · rename_i absent
      cases failed
      refine ⟨_, _, .noType fresh unnamed fun type stands => ?_, rfl⟩
      rw [(FieldType.columnType?_eq_some _ type).mpr stands] at absent
      cases absent

/-- The attributes of the field are in order. -/
def Readable (field : Field) : Prop :=
  ∃ settings, ColumnSettings.ofAttributes field.attributes = .ok settings

/-- Fields of which no two have one column name and each has a column type. -/
structure Fit (fields : List Field) : Prop where
  distinct : (fields.map (·.columnName)).Nodup
  typed : ∀ field ∈ fields, ∃ type, field.HasType type

/-- An error is that of the first field that offends, and has its text: the fields before it fit. -/
def FirstOffence (fields : List Field) (error : DeclarationError) : Prop :=
  ∃ before field after reason text, fields = before ++ field :: after ∧ Fit before ∧
    field.Offends (before.map (·.columnName)) reason text ∧ error = .rejected reason ∧
    reason.message = text

theorem Fit.not_offends (before after : List Field) (field : Field) (reason : Rejection)
    (text : String) (fit : Fit (before ++ field :: after)) :
    ¬ field.Offends (before.map (·.columnName)) reason text := by
  intro offends
  have distinct := fit.distinct
  rw [List.map_append, List.map_cons, List.nodup_middle, List.nodup_cons] at distinct
  obtain ⟨type, typed⟩ := fit.typed field (by simp)
  cases offends with
  | repeated taken => exact distinct.1 (List.mem_append_left _ taken)
  | unknownType _ name given unknown =>
    rcases typed with ⟨_, named, listed⟩ | ⟨unnamed, -⟩
    · obtain rfl := Option.some.inj (given.symm.trans named)
      exact unknown type listed
    · rw [given] at unnamed
      cases unnamed
  | noType _ unnamed unknown =>
    rcases typed with ⟨_, named, _⟩ | ⟨-, stands⟩
    · rw [unnamed] at named
      cases named
    · exact unknown type stands

theorem FirstOffence.not_fit (fields : List Field) (error : DeclarationError)
    (offence : FirstOffence fields error) : ¬ Fit fields := by
  obtain ⟨before, field, after, reason, text, rfl, _, offends, _⟩ := offence
  exact fun fit => fit.not_offends before after field reason text offends

end Field

open TypedSelect.Field

theorem addField_failure (columns : List FieldColumn) (field : Field) (error : DeclarationError)
    (readable : field.Readable) (failed : addField columns field = .error error) :
    field.settings.skip = false ∧
      ∃ reason text, field.Offends (columns.map (·.column.name)) reason text ∧
        error = .rejected reason := by
  obtain ⟨settings, read⟩ := readable
  rcases (bind_failure _ _ _).mp failed with unread | ⟨same, reread, failed⟩
  · rw [read] at unread
    cases unread
  obtain rfl : same = field.settings :=
    ColumnSettings.ofAttributes_settled field.attributes same reread
  dsimp only at failed
  split at failed
  · cases failed
  · rename_i kept
    refine ⟨by simpa using kept, ?_⟩
    split at failed
    · rename_i taken
      cases failed
      exact ⟨_, _, .repeated taken, rfl⟩
    · rename_i fresh
      rcases (bind_failure _ _ _).mp failed with untyped | ⟨_, _, added⟩
      · exact field.columnType_failure _ error fresh untyped
      · cases added

theorem fit_of_added (fields : List Field) (columns : List FieldColumn)
    (added : fields.foldlM addField [] = .ok columns) :
    Fit (fields.filter (!·.settings.skip)) ∧ columns.map (·.column.name) =
      (fields.filter (!·.settings.skip)).map (·.columnName) := by
  obtain ⟨declared, distinct⟩ := addFields_ok fields columns added
  have names : columns.map (·.column.name) =
      (fields.filter (!·.settings.skip)).map (·.columnName) := by
    rw [eq_comm, ← List.forall₂_eq_eq_eq, List.forall₂_map_left_iff, List.forall₂_map_right_iff]
    exact declared.imp fun field column said => said.2.name.symm
  refine ⟨⟨names ▸ distinct, ?_⟩, names⟩
  intro field member
  obtain ⟨place, inside, rfl⟩ := List.getElem_of_mem member
  have said := declared.get inside (declared.length_eq ▸ inside)
  exact ⟨_, (columnType_ok _ _).mp said.2.type⟩

theorem addFields_failure (fields : List Field) (error : DeclarationError)
    (readable : ∀ field ∈ fields, field.Readable)
    (failed : fields.foldlM addField [] = .error error) :
    FirstOffence (fields.filter (!·.settings.skip)) error := by
  obtain ⟨before, field, after, columns, rfl, added, refused⟩ :=
    (foldlM_failure addField fields [] error).mp failed
  obtain ⟨fit, names⟩ := fit_of_added before columns added
  obtain ⟨kept, reason, text, offends, rfl⟩ :=
    addField_failure columns field error (readable field (by simp)) refused
  rw [names] at offends
  refine ⟨_, field, after.filter (!·.settings.skip), reason, text, ?_, fit, offends, rfl,
    offends.message⟩
  simp [List.filter_append, kept]

/-- The items by which an attribute says something about the table. -/
def Attribute.tableItems (attr : Attribute) : List AttributeItem :=
  if attr.path = "table" then
    match attr.body with
    | .items items => items
    | .bare | .assigned => []
  else []

/-- The last text for the name of the table among the items of an attribute. -/
def Attribute.tableName? (attr : Attribute) : Option String :=
  (attr.tableItems.filterMap (·.textFor? "name")).getLast?

theorem addTableItem_ok (name next : Option String) (item : AttributeItem)
    (added : addTableItem name item = .ok next) : next = (item.textFor? "name").or name := by
  unfold addTableItem at added
  unfold AttributeItem.textFor?
  split at added
  · rename_i key
    rw [if_pos key]
    split at added
    all_goals cases added
    · rename_i value
      rw [value]
      rfl
    · rename_i value
      rw [value]
      rfl
  · rename_i key
    rw [if_neg key]
    split at added
    · cases added
    · cases added
      rfl

theorem addTableItems_ok (items : List AttributeItem) (name : Option String)
    (added : items.foldlM addTableItem none = .ok name) :
    name = (items.filterMap (·.textFor? "name")).getLast? := by
  induction items using List.reverseRecOn generalizing name with
  | nil => exact (ok_success none name).mp added
  | append_singleton items item ih =>
    obtain ⟨before, folded, last⟩ := (foldlM_concat addTableItem items item none name).mp added
    obtain rfl := ih before folded
    rw [addTableItem_ok _ name item last, List.filterMap_append]
    cases text : item.textFor? "name" with
    | none => simp [text]
    | some text => simp [text]

theorem attributeTableName?_ok (attr : Attribute) (name : Option String)
    (read : attributeTableName? attr = .ok name) : name = attr.tableName? := by
  unfold attributeTableName? at read
  unfold Attribute.tableName? Attribute.tableItems
  split at read
  · rename_i path
    rw [if_pos path]
    cases body : attr.body with
    | items items =>
      rw [body] at read
      exact addTableItems_ok items name read
    | bare | assigned =>
      rw [body] at read
      cases read
  · rename_i path
    rw [if_neg path]
    exact (ok_success none name).mp read

theorem tableName_ok (typeName name : String) (attributes : List Attribute)
    (read : tableName typeName attributes = .ok name) :
    name = (attributes.findSome? (·.tableName?)).getD
      (String.ofList (Text.snakeCase typeName.toList)) := by
  induction attributes with
  | nil => exact (ok_success _ name).mp read
  | cons attr rest ih =>
    obtain ⟨found, given, read⟩ := (bind_success _ _ _).mp read
    obtain rfl := attributeTableName?_ok attr found given
    rw [List.findSome?_cons]
    split at read
    · rename_i text
      obtain rfl := (ok_success _ name).mp read
      rw [text]
      rfl
    · rename_i noText
      rw [noText]
      exact ih read

namespace Declaration

section Record

variable (declaration : Declaration) (name : String) (record : declaration.kind = .record)
  (named : tableName declaration.name declaration.attributes = .ok name)

include record named

theorem derive_record : declaration.derive =
    (declaration.fields.foldlM addField [] >>= fun columns =>
      .ok ⟨plainName declaration.name ++ "Table", declaration.name, name, columns⟩) := by
  unfold derive
  rw [named]
  simp only [record]
  rfl

theorem derive_record_ok (derived : DerivedTable) (accepted : declaration.derive = .ok derived) :
    derived.name = name ∧ declaration.fields.foldlM addField [] = .ok derived.columns := by
  rw [derive_record declaration name record named] at accepted
  obtain ⟨columns, added, made⟩ := (bind_success _ _ _).mp accepted
  obtain rfl := (ok_success _ derived).mp made
  exact ⟨rfl, added⟩

theorem derive_record_failure (error : DeclarationError)
    (failed : declaration.derive = .error error) :
    declaration.fields.foldlM addField [] = .error error := by
  rw [derive_record declaration name record named] at failed
  rcases (bind_failure _ _ _).mp failed with refused | ⟨_, _, made⟩
  · exact refused
  · cases made

end Record

/-- A table is derived when the fields that are not skipped fit together, and then has a column for
each, with its name and its type, and the name that the first attribute gives that has one, else the
name of the type in snake case. Otherwise the first field that offends, after others that fit,
decides the error. -/
structure Decided (declaration : Declaration) : Prop where
  accepts : (∃ derived, declaration.derive = .ok derived) ↔ Fit declaration.keptFields
  columns : ∀ derived, declaration.derive = .ok derived →
    List.Forall₂ (fun field column => column.name = field.columnName ∧ field.HasType column.type)
      declaration.keptFields derived.tableColumns
  name : ∀ derived, declaration.derive = .ok derived →
    derived.name = (declaration.attributes.findSome? (·.tableName?)).getD
      (String.ofList (Text.snakeCase declaration.name.toList))
  fails : ∀ error, declaration.derive = .error error → FirstOffence declaration.keptFields error

theorem derivation_decided (declaration : Declaration) (name : String)
    (record : declaration.kind = .record)
    (named : tableName declaration.name declaration.attributes = .ok name)
    (readable : ∀ field ∈ declaration.fields, field.Readable) : declaration.Decided := by
  have fails : ∀ error, declaration.derive = .error error →
      FirstOffence declaration.keptFields error := fun error failed =>
    addFields_failure declaration.fields error readable
      (declaration.derive_record_failure name record named error failed)
  refine ⟨⟨?_, ?_⟩, ?_, ?_, fails⟩
  · rintro ⟨derived, accepted⟩
    have added := (declaration.derive_record_ok name record named derived accepted).2
    exact (fit_of_added declaration.fields derived.columns added).1
  · intro fit
    -- Fields that fit leave no field to offend, so that deriving cannot have failed.
    cases derived : declaration.derive with
    | ok table => exact ⟨table, rfl⟩
    | error error => exact absurd fit ((fails error derived).not_fit _ error)
  · intro derived accepted
    refine (declaration.derives derived accepted).columns.imp fun field column said => ?_
    exact ⟨said.name, (field.columnType_ok column.type).mp said.type⟩
  · intro derived accepted
    rw [(declaration.derive_record_ok name record named derived accepted).1]
    exact tableName_ok declaration.name name declaration.attributes named

/-- The last field has a name that is taken and no column type; the name is reported. The first
field has this name too, but is skipped. -/
def sampleClash : Declaration where
  kind := .record
  name := "BlogPost"
  attributes := [⟨"table", .items [⟨"name", some .other⟩]⟩]
  fields := [
    ⟨"draft", .path ["Vec"] [], [⟨"column", .items [⟨"name", some (.text "id")⟩, ⟨"skip", none⟩]⟩]⟩,
    ⟨"key", .reference (.path ["Option"] [.path ["i64"] []]),
      [⟨"column", .items [⟨"name", some (.text "id")⟩]⟩]⟩,
    ⟨"id", .slice (.path ["u8"] []), []⟩]

theorem sampleClash_decided : sampleClash.kind = .record ∧
    tableName sampleClash.name sampleClash.attributes = .ok "blog_post" ∧
    (∀ field ∈ sampleClash.fields, field.Readable) ∧ sampleClash.Decided ∧
    sampleClash.derive = .error (.rejected (.duplicateColumn "id")) ∧
    FirstOffence sampleClash.keptFields (.rejected (.duplicateColumn "id")) ∧
    DerivedTable.sampleSession.Decided ∧ Fit DerivedTable.sampleSession.keptFields := by
  have named : tableName sampleClash.name sampleClash.attributes = .ok "blog_post" := by rfl
  have readable : ∀ field ∈ sampleClash.fields, field.Readable := by
    simp only [sampleClash, List.forall_mem_cons]
    exact ⟨⟨_, rfl⟩, ⟨_, rfl⟩, ⟨_, rfl⟩, by simp⟩
  have sessionReadable : ∀ field ∈ DerivedTable.sampleSession.fields, field.Readable := by
    simp only [DerivedTable.sampleSession, List.forall_mem_cons]
    exact ⟨⟨_, rfl⟩, ⟨_, rfl⟩, ⟨_, rfl⟩, ⟨_, rfl⟩, by simp⟩
  have session := derivation_decided DerivedTable.sampleSession "sessions" rfl (by rfl)
    sessionReadable
  have clash := derivation_decided sampleClash "blog_post" rfl named readable
  have failed : sampleClash.derive = .error (.rejected (.duplicateColumn "id")) := by rfl
  exact ⟨rfl, named, readable, clash, failed, clash.fails _ failed, session,
    session.accepts.mp ⟨DerivedTable.sampleSessionTable, by rfl⟩⟩

end Declaration

end TypedSelect
