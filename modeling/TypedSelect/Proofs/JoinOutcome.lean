import TypedSelect.Proofs.FirstFailing
import TypedSelect.Proofs.ScopeErrors

/-! What comes of a join. It is refused for its table, then for its left column, which must be in
scope before the join, then for its right column, which the table itself must have, and last for the
first column of the table that is in scope with another type. Otherwise the new columns of the table
come after those in scope. -/
namespace TypedSelect

namespace Scope

/-- A name that a column shares with the scope has the column's type there. -/
def Accepts (scope : Scope) (column : Column) : Prop :=
  ∀ existing, (⟨column.name, existing⟩ : Column) ∈ scope.columns → existing = column.type

section Distinct

variable (scope : Scope) (distinct : (scope.columns.map (·.name)).Nodup)

include distinct

theorem typeOf?_eq_some (column : String) (type : ColumnType) :
    scope.typeOf? column = some type ↔ (⟨column, type⟩ : Column) ∈ scope.columns :=
  ⟨mem_of_columnType? scope.columns column type, columnType?_of_mem scope.columns distinct ⟨_, _⟩⟩

theorem columnConflict?_none (table : String) (column : Column) :
    scope.columnConflict? table column = none ↔ scope.Accepts column := by
  simp only [columnConflict?, Accepts, ← scope.typeOf?_eq_some distinct]
  cases scope.typeOf? column.name <;> simp

theorem columnConflict?_some (table : String) (column : Column) (error : QueryError)
    (refused : ¬ scope.Accepts column) :
    scope.columnConflict? table column = some error ↔
      ∃ existing, (⟨column.name, existing⟩ : Column) ∈ scope.columns ∧
        error = .schema (.joinColumnConflict table column.name existing column.type) := by
  simp only [columnConflict?, Accepts, ← scope.typeOf?_eq_some distinct] at refused ⊢
  cases known : scope.typeOf? column.name with
  | none => simp [known] at refused
  | some existing =>
    have apart : existing ≠ column.type := by simpa [known] using refused
    simp [apart, eq_comm (a := error)]

theorem conflict?_none_iff (table : Table) :
    scope.conflict? table = none ↔ ∀ column ∈ table.columns, scope.Accepts column := by
  simp only [conflict?, List.findSome?_eq_none_iff, scope.columnConflict?_none distinct]

theorem conflict?_some_iff (table : Table) (error : QueryError) :
    scope.conflict? table = some error ↔
      ∃ column existing, FirstFailing scope.Accepts table.columns column ∧
        (⟨column.name, existing⟩ : Column) ∈ scope.columns ∧
        error = .schema (.joinColumnConflict table.name column.name existing column.type) := by
  rw [conflict?, findSome?_firstFailing _ _ (scope.columnConflict?_none distinct table.name)]
  simp only [exists_and_left]
  refine exists_congr fun column => and_congr_right fun first => ?_
  obtain ⟨_, _, _, _, refused⟩ := first
  exact scope.columnConflict?_some distinct table.name column error refused

end Distinct

theorem widened_eq (scope : Scope) (table : Table) :
    scope.widened table = {
      tables := scope.tables ++ [table.name]
      columns := scope.columns ++
        table.columns.filter fun column => column.name ∉ scope.columns.map (·.name) } := by
  simp only [widened, Scope.mk.injEq, true_and]
  congr 2
  funext column
  exact columnType?_isNone scope.columns column.name

end Scope

namespace Query

/-- When a join of a table succeeds and when it fails with what error. Each field is for what no
field before it refuses. -/
structure JoinDecided (registry : Registry) (query : Query) (table left right : String) :
    Prop where
  unregistered : query.join table left right =
      .error (.schema (.unknownJoinTable table (contextText query.scope.tables))) ↔
    registry.table? table = none
  /-- The error is also that of an unknown right column of a table that is named as the scope is. -/
  leftUnknown : ∀ joined, registry.table? table = some joined →
    (query.join table left right =
        .error (.schema (.unknownColumn left (contextText query.scope.tables))) ↔
      left ∉ query.scope.columns.map (·.name) ∨
        left = right ∧ right ∉ joined.columnNames ∧ table = contextText query.scope.tables)
  rightUnknown : ∀ joined, registry.table? table = some joined →
    left ∈ query.scope.columns.map (·.name) →
    (query.join table left right = .error (.schema (.unknownColumn right table)) ↔
      right ∉ joined.columnNames)
  conflict : ∀ joined, registry.table? table = some joined →
    left ∈ query.scope.columns.map (·.name) → right ∈ joined.columnNames →
    ∀ error, query.join table left right = .error error ↔
      ∃ column existing, FirstFailing query.scope.Accepts joined.columns column ∧
        (⟨column.name, existing⟩ : Column) ∈ query.scope.columns ∧
        error = .schema (.joinColumnConflict table column.name existing column.type)
  success : ∀ joined, registry.table? table = some joined →
    left ∈ query.scope.columns.map (·.name) → right ∈ joined.columnNames →
    ∀ next, query.join table left right = .ok next ↔
      (∀ column ∈ joined.columns, query.scope.Accepts column) ∧
        next = { query with
          scope := {
            tables := query.scope.tables ++ [table]
            columns := query.scope.columns ++ joined.columns.filter fun column =>
              column.name ∉ query.scope.columns.map (·.name) }
          joins := query.joins ++ [⟨table, left, right⟩] }

private theorem failure_of_found (query : Query) (table left right : String) (joined : Table)
    (found : query.registry.table? table = some joined) (error : QueryError) :
    query.join table left right = .error error ↔
      left ∉ query.scope.columns.map (·.name) ∧
          error = .schema (.unknownColumn left (contextText query.scope.tables)) ∨
      left ∈ query.scope.columns.map (·.name) ∧
        (right ∉ joined.columnNames ∧ error = .schema (.unknownColumn right table) ∨
          right ∈ joined.columnNames ∧ query.scope.conflict? joined = some error) := by
  simp [join_failure, found, Scope.typeOf?, Table.columnType?, columnType?_eq_none,
    columnType?_isSome, Table.columnNames, Scope.unknownColumn_eq]

theorem join_decided (registry : Registry) (steps : List Step) (query : Query)
    (reached : (root registry).run steps = .ok query) (table left right : String) :
    query.JoinDecided registry table left right := by
  have sameRegistry := (run_consistent registry steps query reached).sameRegistry
  have distinct : (query.scope.columns.map (·.name)).Nodup := by
    rw [columns_of_run registry steps query reached]
    exact nodup_map_firstOfEach Column.name _
  subst sameRegistry
  have failure := failure_of_found query table left right
  constructor
  · rw [join_failure, query.scope.describe_eq]
    constructor
    · rintro (⟨absent, _⟩ | ⟨joined, _, ⟨_, other⟩ | ⟨_, ⟨_, other⟩ | ⟨_, conflict⟩⟩⟩)
      · exact absent
      · cases other
      · cases other
      · cases query.scope.scopeText?_conflict joined _ conflict
    · exact fun absent => .inl ⟨absent, rfl⟩
  · intro joined found
    rw [failure joined found]
    constructor
    · rintro (⟨unknown, _⟩ | ⟨_, ⟨foreign, same⟩ | ⟨_, conflict⟩⟩)
      · exact .inl unknown
      · obtain ⟨sameColumn, named⟩ := SchemaError.unknownColumn.inj (QueryError.schema.inj same)
        exact .inr ⟨sameColumn, foreign, named.symm⟩
      · cases query.scope.scopeText?_conflict joined _ conflict
    · rintro (unknown | ⟨rfl, foreign, named⟩)
      · exact .inl ⟨unknown, rfl⟩
      · by_cases known : left ∈ query.scope.columns.map (·.name)
        · exact .inr ⟨known, .inl ⟨foreign, by rw [named]⟩⟩
        · exact .inl ⟨known, rfl⟩
  · intro joined found known
    rw [failure joined found]
    constructor
    · rintro (⟨unknown, _⟩ | ⟨_, ⟨foreign, _⟩ | ⟨_, conflict⟩⟩)
      · exact absurd known unknown
      · exact foreign
      · cases query.scope.scopeText?_conflict joined _ conflict
    · exact fun foreign => .inr ⟨known, .inl ⟨foreign, rfl⟩⟩
  · intro joined found known owned error
    have named := (query.registry.table?_spec table joined found).2
    rw [failure joined found, query.scope.conflict?_some_iff distinct, named]
    simp [known, owned]
  · intro joined found known owned next
    have named := (query.registry.table?_spec table joined found).2
    have leftKnown := (columnType?_isSome query.scope.columns left).mpr known
    have rightOwned := (columnType?_isSome joined.columns right).mpr owned
    simp only [join_ok, found, Scope.typeOf?, leftKnown, Table.columnType?, rightOwned,
      query.scope.conflict?_none_iff distinct, query.scope.widened_eq, named, Option.some.injEq,
      exists_eq_left', true_and]

def notesTable : Table :=
  ⟨"notes", [⟨"id", .number⟩, ⟨"email", .date⟩, ⟨"text", .string⟩]⟩

def notesRegistry : Registry where
  tables := [⟨"users", [⟨"id", .number⟩, ⟨"email", .string⟩]⟩, notesTable]
  distinctTables := by decide
  distinctColumns := by decide

theorem notes_decided : ∃ query, (root notesRegistry).run [.fromTable "users"] = .ok query ∧
    query.join "notes" "id" "id" =
      .error (.schema (.joinColumnConflict "notes" "email" .string .date)) ∧
    (∃ column existing, FirstFailing query.scope.Accepts notesTable.columns column ∧
      (⟨column.name, existing⟩ : Column) ∈ query.scope.columns ∧
      SchemaError.joinColumnConflict "notes" "email" .string .date =
        .joinColumnConflict "notes" column.name existing column.type) ∧
    query.join "notes" "name" "name" = .error (.schema (.unknownColumn "name" "users")) ∧
    "name" ∉ query.scope.columns.map (·.name) := by
  obtain ⟨query, reached, scope, failed, failed'⟩ : ∃ query,
      (root notesRegistry).run [.fromTable "users"] = .ok query ∧
        query.scope = ⟨["users"], [⟨"id", .number⟩, ⟨"email", .string⟩]⟩ ∧
        query.join "notes" "id" "id" =
          .error (.schema (.joinColumnConflict "notes" "email" .string .date)) ∧
        query.join "notes" "name" "name" = .error (.schema (.unknownColumn "name" "users")) :=
    ⟨_, rfl, rfl, rfl, rfl⟩
  have conflicting := join_decided notesRegistry _ query reached "notes" "id" "id"
  have unknown := join_decided notesRegistry _ query reached "notes" "name" "name"
  have known : "id" ∈ query.scope.columns.map (·.name) := by simp [scope]
  obtain ⟨column, existing, first, shared, same⟩ :=
    (conflicting.conflict notesTable rfl known (by decide) _).mp failed
  have context : contextText query.scope.tables = "users" := by rw [scope]; rfl
  rw [← context] at failed'
  have absent := ((unknown.leftUnknown notesTable rfl).mp failed').resolve_right
    fun ⟨_, _, named⟩ => absurd (named.trans context) (by decide)
  exact ⟨query, reached, failed, ⟨column, existing, first, shared, QueryError.schema.inj same⟩,
    context ▸ failed', absent⟩

/-- A table that is named as the scope of the two others is. -/
def listedRegistry : Registry where
  tables := [⟨"users", [⟨"id", .number⟩]⟩, ⟨"posts", [⟨"id", .number⟩]⟩,
    ⟨"users, posts", [⟨"note", .string⟩]⟩]
  distinctTables := by decide
  distinctColumns := by decide

/-- The left column is in scope, and still the error is the one that it would have if it were
not. -/
theorem listed_left_known : ∃ query joined,
    (root listedRegistry).run [.fromTable "users", .join "posts" "id" "id"] = .ok query ∧
      listedRegistry.table? "users, posts" = some joined ∧
      "id" ∈ query.scope.columns.map (·.name) ∧
      query.join "users, posts" "id" "id" =
        .error (.schema (.unknownColumn "id" (contextText query.scope.tables))) ∧
      ¬ (query.join "users, posts" "id" "id" =
          .error (.schema (.unknownColumn "id" (contextText query.scope.tables))) ↔
        "id" ∉ query.scope.columns.map (·.name)) := by
  obtain ⟨query, joined, reached, found, known, failed⟩ : ∃ query joined,
      (root listedRegistry).run [.fromTable "users", .join "posts" "id" "id"] = .ok query ∧
        listedRegistry.table? "users, posts" = some joined ∧
        "id" ∈ query.scope.columns.map (·.name) ∧
        query.join "users, posts" "id" "id" =
          .error (.schema (.unknownColumn "id" (contextText query.scope.tables))) :=
    ⟨_, _, rfl, rfl, by decide, rfl⟩
  exact ⟨query, joined, reached, found, known, failed, fun told => told.mp failed known⟩

end Query

end TypedSelect
