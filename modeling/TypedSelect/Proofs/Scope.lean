import TypedSelect.Query.Scope

/-! Which columns are in scope after any number of tables. A scope represents a list of tables
when it has exactly their columns, each with the type that every one of these tables which has
the column declares for it. Joining a table without a conflict adds it to the list. -/
namespace TypedSelect

theorem columnType?_append (columns more : List Column) (name : String) :
    columnType? (columns ++ more) name = (columnType? columns name).or (columnType? more name) := by
  unfold columnType?
  rw [List.find?_append, Option.map_or]

theorem mem_of_columnType? (columns : List Column) (name : String) (type : ColumnType)
    (found : columnType? columns name = some type) : (⟨name, type⟩ : Column) ∈ columns := by
  obtain ⟨column, first, rfl⟩ := Option.map_eq_some_iff.mp found
  have same : column.name = name := by simpa using List.find?_some first
  subst same
  exact List.mem_of_find?_eq_some first

private theorem columnType?_fresh (columns more : List Column) (name : String)
    (absent : columnType? columns name = none) :
    columnType? (more.filter fun column => (columnType? columns column.name).isNone) name =
      columnType? more name := by
  induction more with
  | nil => rfl
  | cons column rest ih =>
    by_cases same : column.name = name
    · subst same
      rw [List.filter_cons_of_pos (by simp [absent])]
      simp [columnType?]
    · have skipped (tail : List Column) :
          columnType? (column :: tail) name = columnType? tail name := by
        simp [columnType?, same]
      rw [skipped, ← ih, List.filter_cons]
      split
      · exact skipped _
      · rfl

/-- Table names as an error lists them. -/
def contextText : List String → String
  | [] => "<none>"
  | [table] => table
  | table :: next :: rest => table ++ ", " ++ contextText (next :: rest)

namespace Scope

theorem describe_eq (scope : Scope) : scope.describe = contextText scope.tables := by
  have listed (table : String) (rest : List String) :
      String.intercalate ", " (table :: rest) = contextText (table :: rest) := by
    induction rest generalizing table with
    | nil => exact String.intercalate_singleton
    | cons next rest ih => rw [String.intercalate_cons_cons, ih, contextText]
  unfold describe
  cases scope.tables with
  | nil => rfl
  | cons table rest => exact listed table rest

theorem unknownColumn_eq (scope : Scope) (column : String) :
    scope.unknownColumn column = .schema (.unknownColumn column (contextText scope.tables)) := by
  rw [unknownColumn, describe_eq]

/-- The scope with a table's new columns after its own. -/
def widened (scope : Scope) (table : Table) : Scope where
  tables := scope.tables ++ [table.name]
  columns := scope.columns ++
    table.columns.filter fun column => (scope.typeOf? column.name).isNone

def ofTables (tables : List Table) : Scope :=
  tables.foldl widened empty

/-- The scope has exactly the columns of the tables, and all the tables agree with it. -/
def Represents (scope : Scope) (tables : List Table) : Prop :=
  ∀ column type, scope.typeOf? column = some type ↔
    ∃ table ∈ tables, table.columnType? column = some type

theorem join_ok (scope next : Scope) (table : Table) :
    scope.join table = .ok next ↔ scope.conflict? table = none ∧ next = scope.widened table := by
  unfold join
  cases conflict : scope.conflict? table with
  | some error => simp
  | none => simp [widened, eq_comm]

theorem join_failure (scope : Scope) (table : Table) (error : QueryError) :
    scope.join table = .error error ↔ scope.conflict? table = some error := by
  unfold join
  cases conflict : scope.conflict? table <;> simp

theorem require_ok (scope : Scope) (column : String) (type : ColumnType) :
    scope.require column = .ok type ↔ scope.typeOf? column = some type := by
  unfold require
  cases scope.typeOf? column <;> simp

theorem require_failure (scope : Scope) (column : String) (error : QueryError) :
    scope.require column = .error error ↔
      scope.typeOf? column = none ∧ error = scope.unknownColumn column := by
  unfold require
  cases scope.typeOf? column <;> simp [eq_comm]

theorem ofTable_eq (table : Table) : ofTable table = empty.widened table := by
  simp [ofTable, empty, widened, typeOf?, columnType?, List.filter_eq_self.mpr]

theorem typeOf?_widened (scope : Scope) (table : Table) (column : String) :
    (scope.widened table).typeOf? column =
      (scope.typeOf? column).or (table.columnType? column) := by
  change columnType? (scope.columns ++ _) column = _
  rw [columnType?_append]
  cases known : scope.typeOf? column with
  | some type => rw [show columnType? scope.columns column = some type from known]; rfl
  | none =>
    rw [show columnType? scope.columns column = none from known]
    exact columnType?_fresh scope.columns table.columns column known

theorem typeOf?_widened_of_some (scope : Scope) (table : Table) (column : String)
    (type : ColumnType) (known : scope.typeOf? column = some type) :
    (scope.widened table).typeOf? column = some type := by
  rw [typeOf?_widened, known]
  rfl

theorem known_kept (scope wider : Scope)
    (kept : ∀ column type, scope.typeOf? column = some type → wider.typeOf? column = some type)
    (column : String) (known : (scope.typeOf? column).isSome) : (wider.typeOf? column).isSome := by
  obtain ⟨type, found⟩ := Option.isSome_iff_exists.mp known
  exact Option.isSome_iff_exists.mpr ⟨type, kept column type found⟩

theorem agree_of_conflict?_none (scope : Scope) (table : Table)
    (free : scope.conflict? table = none) (column : String) (existing declared : ColumnType)
    (known : scope.typeOf? column = some existing)
    (owned : table.columnType? column = some declared) : existing = declared := by
  have member := mem_of_columnType? table.columns column declared owned
  have passed := List.findSome?_eq_none_iff.mp free _ member
  simpa [columnConflict?, known] using passed

theorem represents_empty : empty.Represents [] := by
  intro column type
  simp [empty, typeOf?, columnType?]

theorem represents_widened (scope : Scope) (tables : List Table) (table : Table)
    (represents : scope.Represents tables) (free : scope.conflict? table = none) :
    (scope.widened table).Represents (tables ++ [table]) := by
  intro column type
  rw [typeOf?_widened, Option.or_eq_some_iff, represents column type]
  simp only [List.mem_append, List.mem_singleton]
  constructor
  · rintro (⟨owner, member, owned⟩ | ⟨_, owned⟩)
    · exact ⟨owner, .inl member, owned⟩
    · exact ⟨table, .inr rfl, owned⟩
  · rintro ⟨owner, member | rfl, owned⟩
    · exact .inl ⟨owner, member, owned⟩
    · cases known : scope.typeOf? column with
      | none => exact .inr ⟨rfl, owned⟩
      | some existing =>
        have same := agree_of_conflict?_none scope owner free column existing type known owned
        exact .inl ((represents column type).mp (same ▸ known))

theorem represents_ofTable (table : Table) : (ofTable table).Represents [table] := by
  rw [ofTable_eq]
  apply represents_widened empty [] table represents_empty
  exact List.findSome?_eq_none_iff.mpr fun column _ => rfl

end Scope

end TypedSelect
