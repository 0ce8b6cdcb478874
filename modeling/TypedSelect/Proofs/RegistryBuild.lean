import Mathlib.Data.List.Nodup
import Mathlib.Tactic.MkIffOfInductiveProp
import TypedSelect.Proofs.FirstOfEach
import TypedSelect.Proofs.Run

/-! Building a registry from tables. It succeeds just when no name is taken twice and no table
declares a column twice, the registry then has the tables as they were given, and otherwise the
first table that cannot be added decides the error. -/
namespace TypedSelect

section Folding

variable {ε α β : Type} (step : β → α → Except ε β)

theorem foldlM_concat (items : List α) (item : α) (start last : β) :
    (items ++ [item]).foldlM step start = .ok last ↔
      ∃ state, items.foldlM step start = .ok state ∧ step state item = .ok last := by
  rw [List.foldlM_append, bind_success]
  simp only [List.foldlM_cons, List.foldlM_nil, bind_pure]

/-- A fold fails at some item, all items before which it takes. -/
theorem foldlM_failure (items : List α) (start : β) (error : ε) :
    items.foldlM step start = .error error ↔
      ∃ before item after state, items = before ++ item :: after ∧
        before.foldlM step start = .ok state ∧ step state item = .error error := by
  induction items generalizing start with
  | nil => simp [pure, Except.pure]
  | cons first rest ih =>
    rw [List.foldlM_cons, bind_failure]
    constructor
    · rintro (failed | ⟨state, passed, failed⟩)
      · exact ⟨[], first, rest, start, rfl, rfl, failed⟩
      · obtain ⟨before, item, after, last, rfl, folded, failed⟩ := (ih state).mp failed
        refine ⟨first :: before, item, after, last, rfl, ?_, failed⟩
        rw [List.foldlM_cons, bind_success]
        exact ⟨state, passed, folded⟩
    · rintro ⟨before, item, after, last, split, folded, failed⟩
      cases before with
      | nil =>
        obtain ⟨rfl, _⟩ := List.cons.inj split
        obtain rfl := (ok_success start last).mp folded
        exact .inl failed
      | cons head before =>
        obtain ⟨rfl, rfl⟩ := List.cons.inj split
        rw [List.foldlM_cons, bind_success] at folded
        obtain ⟨state, passed, folded⟩ := folded
        exact .inr ⟨state, passed, (ih state).mpr ⟨before, item, after, last, rfl, folded, failed⟩⟩

end Folding

/-- The first name of a list that an earlier one repeats: before it all are distinct. -/
def FirstRepeat (names : List String) (name : String) : Prop :=
  ∃ before after, names = before ++ name :: after ∧ before.Nodup ∧ name ∈ before

private theorem firstRepeated_some (names seen : List String) (name : String) :
    firstRepeated seen names = some name ↔
      ∃ before after, names = before ++ name :: after ∧
        (before.Nodup ∧ ∀ earlier ∈ before, earlier ∉ seen) ∧ (name ∈ before ∨ name ∈ seen) := by
  induction names generalizing seen with
  | nil => simp [firstRepeated]
  | cons head rest ih =>
    unfold firstRepeated
    split
    · rename_i taken
      constructor
      · intro same
        obtain rfl := Option.some.inj same
        exact ⟨[], rest, rfl, by simp, .inr taken⟩
      · rintro ⟨before, after, split, ⟨_, apart⟩, _⟩
        cases before with
        | nil => rw [(List.cons.inj split).1]
        | cons first before =>
          obtain ⟨rfl, _⟩ := List.cons.inj split
          exact absurd taken (apart _ List.mem_cons_self)
    · rename_i fresh
      rw [ih]
      constructor
      · rintro ⟨before, after, rfl, ⟨distinct, apart⟩, again⟩
        refine ⟨head :: before, after, rfl, ?_, ?_⟩ <;> grind
      · rintro ⟨before, after, split, ⟨distinct, apart⟩, again⟩
        cases before with
        | nil =>
          obtain ⟨rfl, _⟩ := List.cons.inj split
          exact absurd (again.resolve_left List.not_mem_nil) fresh
        | cons first before =>
          obtain ⟨rfl, rfl⟩ := List.cons.inj split
          refine ⟨before, after, rfl, ?_, ?_⟩ <;> grind

theorem firstRepeated_nil_some (names : List String) (name : String) :
    firstRepeated [] names = some name ↔ FirstRepeat names name := by
  rw [firstRepeated_some]
  simp [FirstRepeat]

namespace Table

theorem nodup_columnNames (table : Table) :
    table.columnNames.Nodup ↔ firstRepeated [] table.columnNames = none := by
  simp [firstRepeated_none]

/-- What is wrong with a table that is registered after others. A column that the table repeats is
reported before a name that one of them has taken. -/
@[mk_iff]
inductive Fault (earlier : List Table) (table : Table) : SchemaError → Prop where
  | column (name : String) (repeats : FirstRepeat table.columnNames name) :
    Fault earlier table (.duplicateColumn table.name name)
  | name (distinct : table.columnNames.Nodup) (taken : table.name ∈ earlier.map (·.name)) :
    Fault earlier table (.duplicateTable table.name)

end Table

namespace Registry

theorem ext_tables (first second : Registry) (same : first.tables = second.tables) :
    first = second := by
  cases first
  cases second
  simpa using same

theorem add_ok (registry next : Registry) (table : Table) :
    registry.add table = .ok next ↔ table.columnNames.Nodup ∧
      table.name ∉ registry.tables.map (·.name) ∧ next.tables = registry.tables ++ [table] := by
  rw [table.nodup_columnNames]
  unfold add
  split
  · rename_i column repeated
    simp [repeated]
  · rename_i distinct
    rw [and_iff_right distinct]
    split
    · rename_i taken
      simp [taken]
    · rename_i fresh
      rw [ok_success, and_iff_right fresh]
      constructor
      · rintro rfl
        rfl
      · intro same
        exact ext_tables _ _ same

theorem add_failure (registry : Registry) (table : Table) (error : SchemaError) :
    registry.add table = .error error ↔ table.Fault registry.tables error := by
  simp only [Table.fault_iff, ← firstRepeated_nil_some, table.nodup_columnNames]
  unfold add
  split
  · rename_i column repeated
    simp [repeated, eq_comm]
  · rename_i distinct
    split
    · rename_i taken
      simp [distinct, taken, eq_comm]
    · rename_i fresh
      simp [distinct, fresh]

/-- The registry that is built of some tables is the one that has just these. -/
theorem build_ok (tables : List Table) (registry : Registry) :
    build tables = .ok registry ↔ registry.tables = tables := by
  induction tables using List.reverseRecOn generalizing registry with
  | nil =>
    constructor
    · intro built
      obtain rfl := (ok_success empty registry).mp built
      rfl
    · intro same
      exact (ok_success empty registry).mpr (ext_tables registry empty same)
  | append_singleton tables table ih =>
    unfold build at ih ⊢
    simp only [foldlM_concat, ih, add_ok]
    constructor
    · rintro ⟨before, rfl, _, _, same⟩
      exact same
    · intro same
      have apart := registry.distinctTables
      rw [same, List.map_append, List.map_singleton, ← List.concat_eq_append,
        List.nodup_concat] at apart
      have distinct := registry.distinctColumns
      simp only [same, List.mem_append, List.mem_singleton] at distinct
      exact ⟨⟨tables, apart.2, fun other member => distinct other (.inl member)⟩, rfl,
        distinct table (.inr rfl), apart.1, same⟩

/-- Tables make a registry when no two have one name and none declares a column twice. -/
theorem built_iff (tables : List Table) :
    (∃ registry, build tables = .ok registry) ↔
      (tables.map (·.name)).Nodup ∧ ∀ table ∈ tables, table.columnNames.Nodup := by
  simp only [build_ok]
  constructor
  · rintro ⟨registry, rfl⟩
    exact ⟨registry.distinctTables, registry.distinctColumns⟩
  · rintro ⟨apart, distinct⟩
    exact ⟨⟨tables, apart, distinct⟩, rfl⟩

/-- Building fails at the first table that is at fault. -/
theorem build_error (tables : List Table) (error : SchemaError) :
    build tables = .error error ↔ ∃ before table after, tables = before ++ table :: after ∧
      (∃ registry, build before = .ok registry) ∧ table.Fault before error := by
  unfold build
  rw [foldlM_failure]
  refine exists_congr fun before => exists_congr fun table => exists_congr fun after => ?_
  constructor
  · rintro ⟨registry, split, built, refused⟩
    have same := (build_ok before registry).mp built
    exact ⟨split, ⟨registry, built⟩, same ▸ (add_failure registry table error).mp refused⟩
  · rintro ⟨split, ⟨registry, built⟩, fault⟩
    have same := (build_ok before registry).mp built
    exact ⟨registry, split, built, (add_failure registry table error).mpr (same ▸ fault)⟩

/-- Where no table declares a column twice, building fails at the first name that is taken. -/
theorem build_failure (tables : List Table) (error : SchemaError)
    (distinct : ∀ table ∈ tables, table.columnNames.Nodup)
    (failed : build tables = .error error) :
    ∃ before table after, tables = before ++ table :: after ∧ (before.map (·.name)).Nodup ∧
      table.name ∈ before.map (·.name) ∧ error = .duplicateTable table.name := by
  obtain ⟨before, table, after, rfl, built, fault⟩ := (build_error tables error).mp failed
  cases fault with
  | column name repeats =>
    have declared := distinct table (by simp)
    rw [table.nodup_columnNames, ← Option.not_isSome_iff_eq_none] at declared
    rw [← firstRepeated_nil_some] at repeats
    simp [repeats] at declared
  | name _ taken =>
    exact ⟨before, table, after, rfl, ((built_iff before).mp built).1, taken, rfl⟩

theorem columnsOf_of_mem (registry : Registry) (table : Table)
    (member : table ∈ registry.tables) : registry.columnsOf table.name = .ok table.columns := by
  unfold columnsOf table?
  rw [find?_of_nodup Table.name registry.tables registry.distinctTables table member]

end Registry

end TypedSelect
