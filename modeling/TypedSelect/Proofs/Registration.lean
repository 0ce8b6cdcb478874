import TypedSelect.Proofs.RegistryBuild
import TypedSelect.Proofs.ScopeColumns

/-! Registering tables. Which lists of tables make a registry, at which table any other list fails
and with what error, and what the lookups of the registry answer, whatever the order of the
tables. -/
namespace TypedSelect

/-- A table that cannot be registered after others: it repeats one of its own columns or the name
of one of them. -/
def Table.Faulty (earlier : List Table) (table : Table) : Prop :=
  ¬ table.columnNames.Nodup ∨ table.name ∈ earlier.map (·.name)

theorem Table.Fault.faulty (earlier : List Table) (table : Table) (error : SchemaError)
    (fault : table.Fault earlier error) : table.Faulty earlier := by
  cases fault with
  | column name repeats =>
    refine .inl fun distinct => ?_
    rw [table.nodup_columnNames] at distinct
    rw [← firstRepeated_nil_some, distinct] at repeats
    cases repeats
  | name _ taken => exact .inr taken

/-- The fault of the first table of a list that is faulty among those before it. -/
def FirstFault (tables : List Table) (error : SchemaError) : Prop :=
  ∃ before table after, tables = before ++ table :: after ∧
    (∀ earlier other later, before = earlier ++ other :: later → ¬ other.Faulty earlier) ∧
    table.Fault before error

namespace Registry

theorem built_iff_sound (tables : List Table) :
    (∃ registry, build tables = .ok registry) ↔
      ∀ before table after, tables = before ++ table :: after → ¬ table.Faulty before := by
  constructor
  · intro built before table after split
    obtain ⟨apart, distinct⟩ := (built_iff tables).mp built
    rw [split, List.map_append, List.map_cons] at apart
    have fresh : table.name ∉ before.map (·.name) := fun taken =>
      (List.nodup_append.mp apart).2.2 _ taken _ List.mem_cons_self rfl
    have declared := distinct table (by simp [split])
    simp [Table.Faulty, fresh, declared]
  · intro sound
    cases built : build tables with
    | ok registry => exact ⟨registry, rfl⟩
    | error error =>
      obtain ⟨before, table, after, split, _, fault⟩ := (build_error tables error).mp built
      exact absurd fault.faulty (sound before table after split)

theorem build_firstFault (tables : List Table) (error : SchemaError) :
    build tables = .error error ↔ FirstFault tables error := by
  simp only [build_error, built_iff_sound, FirstFault]

theorem table?_eq_some (registry : Registry) (name : String) (table : Table) :
    registry.table? name = some table ↔ table ∈ registry.tables ∧ table.name = name := by
  constructor
  · exact registry.table?_spec name table
  · rintro ⟨member, rfl⟩
    exact find?_of_nodup Table.name registry.tables registry.distinctTables table member

theorem table?_eq_none (registry : Registry) (name : String) :
    registry.table? name = none ↔ name ∉ registry.tables.map (·.name) := by
  simp [table?]

theorem perm_tableNames (registry : Registry) :
    registry.tableNames.Perm (registry.tables.map (·.name)) :=
  List.mergeSort_perm _ _

theorem increasing_tableNames (registry : Registry) :
    registry.tableNames.Pairwise (· < ·) := by
  have ordered : registry.tableNames.Pairwise (fun a b => decide (a ≤ b) = true) :=
    List.pairwise_mergeSort (by simpa using fun a b c => String.le_trans)
      (by simpa using String.le_total) _
  have distinct : registry.tableNames.Nodup :=
    registry.perm_tableNames.nodup_iff.mpr registry.distinctTables
  -- Names that are in order and distinct are in strict order.
  refine ordered.imp₂ (fun a b before apart => ?_) distinct
  by_contra notLess
  exact apart (String.le_antisymm (of_decide_eq_true before) (String.not_lt.mp notLess))

structure Answers (registry : Registry) (tables : List Table) : Prop where
  increasing : registry.tableNames.Pairwise (· < ·)
  names : registry.tableNames.Perm (tables.map (·.name))
  given : ∀ table ∈ tables, registry.table? table.name = some table ∧
    registry.columnsOf table.name = .ok table.columns
  unknown : ∀ name ∉ tables.map (·.name), registry.table? name = none ∧
    registry.columnsOf name = .error (.unknownTable name)

theorem answers_of_build (tables : List Table) (registry : Registry)
    (built : build tables = .ok registry) : registry.Answers tables := by
  obtain rfl := (build_ok tables registry).mp built
  refine ⟨registry.increasing_tableNames, registry.perm_tableNames, ?_, ?_⟩
  · intro table member
    exact ⟨(registry.table?_eq_some table.name table).mpr ⟨member, rfl⟩,
      registry.columnsOf_of_mem table member⟩
  · intro name absent
    have unknown := (registry.table?_eq_none name).mpr absent
    exact ⟨unknown, by rw [columnsOf, unknown]⟩

structure SameAnswers (registry other : Registry) : Prop where
  names : registry.tableNames = other.tableNames
  tables : ∀ name, registry.table? name = other.table? name
  columns : ∀ name, registry.columnsOf name = other.columnsOf name
  contains : ∀ name, registry.contains name = other.contains name

theorem sameAnswers_of_perm (registry other : Registry)
    (perm : registry.tables.Perm other.tables) : registry.SameAnswers other := by
  have names : registry.tableNames.Perm other.tableNames :=
    registry.perm_tableNames.trans ((perm.map _).trans other.perm_tableNames.symm)
  have tables (name : String) : registry.table? name = other.table? name := by
    apply Option.ext
    intro table
    rw [table?_eq_some, table?_eq_some, perm.mem_iff]
  refine ⟨?_, tables, fun name => ?_, fun name => ?_⟩
  · exact names.eq_of_pairwise
      (fun a b _ _ before after => absurd before (String.lt_asymm after))
      registry.increasing_tableNames other.increasing_tableNames
  · rw [columnsOf, columnsOf, tables]
  · rw [contains, contains, tables]

theorem built_perm (tables others : List Table) (perm : tables.Perm others) :
    (∃ registry, build tables = .ok registry) ↔ ∃ registry, build others = .ok registry := by
  rw [built_iff, built_iff, (perm.map _).nodup_iff]
  simp only [perm.mem_iff]

/-- Tables make a registry when their names are distinct and so are the columns of each; otherwise
the first faulty one is reported. The registry finds each table under its name, as it was given, and
nothing else; in another order the tables make a registry with the same answers. -/
theorem build_decided (tables : List Table) :
    ((∃ registry, build tables = .ok registry) ↔
      (tables.map (·.name)).Nodup ∧ ∀ table ∈ tables, (table.columns.map (·.name)).Nodup) ∧
    (∀ error, build tables = .error error ↔ FirstFault tables error) ∧
    (∀ registry, build tables = .ok registry → registry.Answers tables) ∧
    ∀ others, tables.Perm others →
      ((∃ registry, build tables = .ok registry) ↔ ∃ registry, build others = .ok registry) ∧
      ∀ registry other, build tables = .ok registry → build others = .ok other →
        registry.SameAnswers other := by
  refine ⟨built_iff tables, build_firstFault tables, answers_of_build tables, ?_⟩
  intro others perm
  refine ⟨built_perm tables others perm, fun registry other built built' => ?_⟩
  apply sameAnswers_of_perm
  rwa [(build_ok tables registry).mp built, (build_ok others other).mp built']

def clashingTables : List Table :=
  [⟨"users", [⟨"id", .number⟩]⟩,
    ⟨"users", [⟨"id", .number⟩, ⟨"email", .string⟩, ⟨"email", .date⟩, ⟨"id", .string⟩]⟩,
    ⟨"users", []⟩]

theorem users_posts_decided : ∃ registry other,
    build Query.sampleRegistry.tables = .ok registry ∧
      build Query.sampleRegistry.tables.reverse = .ok other ∧
      registry.Answers Query.sampleRegistry.tables ∧ registry.SameAnswers other ∧
      registry.columnsOf "users" = .ok [⟨"id", .number⟩, ⟨"email", .string⟩] ∧
      FirstFault clashingTables (.duplicateColumn "users" "email") := by
  have perm := (List.reverse_perm Query.sampleRegistry.tables).symm
  obtain ⟨registry, built⟩ : ∃ registry, build Query.sampleRegistry.tables = .ok registry :=
    ⟨_, rfl⟩
  obtain ⟨-, -, answers, reordered⟩ := build_decided Query.sampleRegistry.tables
  obtain ⟨other, built'⟩ := (reordered _ perm).1.mp ⟨registry, built⟩
  have failed : build clashingTables = .error (.duplicateColumn "users" "email") := rfl
  exact ⟨registry, other, built, built', answers registry built,
    (reordered _ perm).2 registry other built built',
    ((answers registry built).given _ List.mem_cons_self).2,
    ((build_decided clashingTables).2.1 _).mp failed⟩

end Registry

end TypedSelect
