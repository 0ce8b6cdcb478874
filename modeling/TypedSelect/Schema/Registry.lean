import TypedSelect.Schema.Error

/-! Tables and the registry of all tables that queries may name. -/
namespace TypedSelect

structure Table where
  name : String
  columns : List Column
deriving DecidableEq, Repr

namespace Table

def withColumn (table : Table) (column : Column) : Table :=
  { table with columns := table.columns ++ [column] }

/-- The table of a declared name and declared columns, which are added one by one. -/
def ofColumns (name : String) (columns : List Column) : Table :=
  columns.foldl withColumn ⟨name, []⟩

def columnNames (table : Table) : List String :=
  table.columns.map (·.name)

def columnType? (table : Table) (column : String) : Option ColumnType :=
  TypedSelect.columnType? table.columns column

end Table

/-- The first name of a list that occurs among the seen ones or earlier in the list. -/
def firstRepeated (seen : List String) : List String → Option String
  | [] => none
  | name :: rest => if name ∈ seen then some name else firstRepeated (name :: seen) rest

theorem firstRepeated_none (names seen : List String) :
    firstRepeated seen names = none ↔ names.Nodup ∧ ∀ name ∈ names, name ∉ seen := by
  induction names generalizing seen with
  | nil => simp [firstRepeated]
  | cons name rest ih =>
    unfold firstRepeated
    split
    · rename_i taken
      simp [taken]
    · rename_i fresh
      rw [ih, List.nodup_cons, List.forall_mem_cons]
      grind

structure Registry where
  tables : List Table
  distinctTables : (tables.map (·.name)).Nodup
  distinctColumns : ∀ table ∈ tables, table.columnNames.Nodup

namespace Registry

def empty : Registry where
  tables := []
  distinctTables := by simp
  distinctColumns := by simp

def table? (registry : Registry) (name : String) : Option Table :=
  registry.tables.find? (·.name == name)

def contains (registry : Registry) (name : String) : Bool :=
  (registry.table? name).isSome

/-- The names of all tables, in the order of their characters. -/
def tableNames (registry : Registry) : List String :=
  (registry.tables.map (·.name)).mergeSort (fun a b => decide (a ≤ b))

def columnsOf (registry : Registry) (name : String) : Except SchemaError (List Column) :=
  match registry.table? name with
  | some table => .ok table.columns
  | none => .error (.unknownTable name)

/-- Adds a table. A column declared twice is reported before a name that is taken. -/
def add (registry : Registry) (table : Table) : Except SchemaError Registry :=
  match distinct : firstRepeated [] table.columnNames with
  | some column => .error (.duplicateColumn table.name column)
  | none =>
    if taken : table.name ∈ registry.tables.map (·.name) then
      .error (.duplicateTable table.name)
    else .ok {
      tables := registry.tables ++ [table]
      distinctTables := by
        rw [List.map_append, List.nodup_append]
        exact ⟨registry.distinctTables, by simp, by
          intro name mem other last
          simp only [List.map_cons, List.map_nil, List.mem_singleton] at last
          exact fun same => taken (last ▸ same ▸ mem)⟩
      distinctColumns := by
        intro other mem
        rcases List.mem_append.1 mem with mem | mem
        · exact registry.distinctColumns other mem
        · rw [List.mem_singleton.1 mem]
          exact ((firstRepeated_none _ _).mp distinct).1 }

/-- Registers tables one after the other, up to the first faulty one. -/
def build (tables : List Table) : Except SchemaError Registry :=
  tables.foldlM add empty

end Registry

end TypedSelect
