import TypedSelect.Proofs.FirstOfEach
import TypedSelect.Proofs.NormalForm
import TypedSelect.Proofs.WellTyped

/-! The closed form of a query's scope. Its columns are those that the base table and the joined
tables declare, one after another, without the names that occurred before; an error that names the
scope lists these tables. -/
namespace TypedSelect

theorem columnType?_of_mem (columns : List Column) (distinct : (columns.map (·.name)).Nodup)
    (column : Column) (member : column ∈ columns) :
    columnType? columns column.name = some column.type := by
  rw [columnType?, find?_of_nodup Column.name columns distinct column member]
  rfl

theorem columnType?_eq_none (columns : List Column) (name : String) :
    columnType? columns name = none ↔ name ∉ columns.map (·.name) := by
  simp [columnType?]

theorem columnType?_isSome (columns : List Column) (name : String) :
    (columnType? columns name).isSome ↔ name ∈ columns.map (·.name) := by
  simp [columnType?]

theorem columnType?_isNone (columns : List Column) (name : String) :
    (columnType? columns name).isNone = decide (name ∉ columns.map (·.name)) := by
  rw [Bool.eq_iff_iff, decide_eq_true_iff, Option.isNone_iff_eq_none, columnType?_eq_none]

namespace Registry

theorem table?_spec (registry : Registry) (name : String) (table : Table)
    (found : registry.table? name = some table) : table ∈ registry.tables ∧ table.name = name :=
  ⟨List.mem_of_find?_eq_some found, by simpa using List.find?_some found⟩

theorem columns_distinct (registry : Registry) (name : String) (table : Table)
    (found : registry.table? name = some table) : table.columnNames.Nodup :=
  registry.distinctColumns table (registry.table?_spec name table found).1

/-- The columns that a table is registered with. -/
def declared (registry : Registry) (name : String) : List Column :=
  (registry.table? name).elim [] (·.columns)

theorem declared_of_table? (registry : Registry) (name : String) (table : Table)
    (found : registry.table? name = some table) : registry.declared name = table.columns := by
  rw [declared, found]
  rfl

theorem typeIn?_of_declared (registry : Registry) (name : String) (column : Column)
    (member : column ∈ registry.declared name) :
    registry.typeIn? name column.name = some column.type := by
  unfold typeIn?
  cases found : registry.table? name with
  | none => simp [declared, found] at member
  | some table =>
    rw [declared_of_table? registry name table found] at member
    exact columnType?_of_mem table.columns (registry.columns_distinct name table found) column
      member

theorem flatMap_declared (registry : Registry) (names : List String) :
    (names.filterMap registry.table?).flatMap (·.columns) = names.flatMap registry.declared := by
  induction names with
  | nil => rfl
  | cons name rest ih =>
    cases found : registry.table? name with
    | none => simpa [found, declared] using ih
    | some table => simpa [found, declared] using ih

theorem map_name_table? (registry : Registry) (names : List String)
    (registered : ∀ name ∈ names, registry.contains name = true) :
    (names.filterMap registry.table?).map (·.name) = names := by
  induction names with
  | nil => rfl
  | cons name rest ih =>
    obtain ⟨head, tail⟩ := List.forall_mem_cons.mp registered
    obtain ⟨table, found⟩ := Option.isSome_iff_exists.mp head
    rw [List.filterMap_cons_some found, List.map_cons, ih tail,
      (registry.table?_spec name table found).2]

end Registry

namespace Scope

theorem ofTables_concat (tables : List Table) (table : Table) :
    ofTables (tables ++ [table]) = (ofTables tables).widened table :=
  List.foldl_append

theorem tables_ofTables (tables : List Table) :
    (ofTables tables).tables = tables.map (·.name) := by
  induction tables using List.reverseRecOn with
  | nil => rfl
  | append_singleton tables table ih =>
    rw [ofTables_concat, List.map_append, ← ih]
    rfl

/-- A scope that lists every name once, where it first occurs, still does so with the new columns
of a table after its own. -/
theorem columns_widened (scope : Scope) (listed : List Column) (table : Table)
    (closed : scope.columns = firstOfEach Column.name listed)
    (distinct : table.columnNames.Nodup) :
    (scope.widened table).columns = firstOfEach Column.name (listed ++ table.columns) := by
  have fresh : (table.columns.filter fun column => (scope.typeOf? column.name).isNone) =
      table.columns.filter fun column => decide (column.name ∉ listed.map Column.name) := by
    apply List.filter_congr
    intro column _
    change (columnType? scope.columns column.name).isNone = _
    rw [columnType?_isNone, closed, map_firstOfEach]
    simp only [List.mem_eraseDups]
  have sublist := (List.filter_sublist (p := fun column =>
    decide (column.name ∉ listed.map Column.name)) (l := table.columns)).map Column.name
  change scope.columns ++ _ = _
  rw [firstOfEach_append, closed, fresh, firstOfEach_of_nodup Column.name (table.columns.filter _)
    (distinct.sublist sublist)]

theorem columns_ofTables (tables : List Table)
    (distinct : ∀ table ∈ tables, table.columnNames.Nodup) :
    (ofTables tables).columns = firstOfEach Column.name (tables.flatMap (·.columns)) := by
  induction tables using List.reverseRecOn with
  | nil => rfl
  | append_singleton tables table ih =>
    rw [List.forall_mem_append] at distinct
    have closed := ih distinct.1
    have last := distinct.2 table (List.mem_singleton_self table)
    rw [ofTables_concat, columns_widened _ _ table closed last, List.flatMap_append]
    simp

end Scope

namespace Query

theorem scope_of_run (registry : Registry) (steps : List Step) (query : Query)
    (reached : (root registry).run steps = .ok query) :
    query.scope = Scope.ofTables (query.tableNames.filterMap registry.table?) := by
  have described : query = described registry steps := run_described registry [] steps query reached
  rw [described]
  rfl

theorem tables_of_run (registry : Registry) (steps : List Step) (query : Query)
    (reached : (root registry).run steps = .ok query) : query.scope.tables = query.tableNames := by
  have consistent := run_consistent registry steps query reached
  rw [scope_of_run registry steps query reached, Scope.tables_ofTables,
    registry.map_name_table? query.tableNames consistent.registered]

theorem columns_of_run (registry : Registry) (steps : List Step) (query : Query)
    (reached : (root registry).run steps = .ok query) :
    query.scope.columns = firstOfEach Column.name (query.tableNames.flatMap registry.declared) := by
  rw [scope_of_run registry steps query reached, Scope.columns_ofTables,
    registry.flatMap_declared]
  intro table member
  obtain ⟨name, _, found⟩ := List.mem_filterMap.mp member
  exact registry.columns_distinct name table found

theorem mem_columns_of_declared (registry : Registry) (query : Query)
    (consistent : query.Consistent registry) (name : String) (member : name ∈ query.tableNames)
    (column : Column) (declared : column ∈ registry.declared name) :
    column ∈ query.scope.columns := by
  have owned := registry.typeIn?_of_declared name column declared
  have known := (known_iff registry query.tableNames query.scope consistent.represents
    column.name column.type).mpr ⟨name, member, owned⟩
  exact mem_of_columnType? query.scope.columns column.name column.type known

end Query

end TypedSelect
