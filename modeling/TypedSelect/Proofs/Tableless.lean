import TypedSelect.Proofs.Attempts
import TypedSelect.Proofs.NormalForm
import TypedSelect.Result.Shape

/-! Queries before a base table is chosen. As no column is in scope, every step that names one
fails, so that nothing but options, limit and offset can be set; a base table chosen then starts
from the options alone. -/
namespace TypedSelect

def QueryError.FailsAs {α : Type} (kind : ErrorKind) (result : Except QueryError α) : Prop :=
  ∃ error, result = .error error ∧ error.kind = kind

namespace Query

/-- A query of a registry without a base table and without anything that needs one. -/
structure Tableless (registry : Registry) (query : Query) : Prop where
  sameRegistry : query.registry = registry
  table : query.table = none
  scope : query.scope = .empty
  selection : query.selection = .all
  conditions : query.conditions = []
  orderBy : query.orderBy = none
  joins : query.joins = []

/-- Whatever names a column or joins a table is refused, as naming something unknown. -/
structure RefusesNames (query : Query) : Prop where
  select : ∀ columns ≠ [], QueryError.FailsAs .schema (query.select columns)
  selectAs : ∀ pairs ≠ [], QueryError.FailsAs .schema (query.selectAs pairs)
  filter : ∀ conditions ≠ [], QueryError.FailsAs .schema (query.filter conditions)
  order : ∀ clause, QueryError.FailsAs .schema (query.order clause)
  join : ∀ table left right, QueryError.FailsAs .schema (query.join table left right)

/-- Neither a statement nor its texts nor a shape can be had. -/
structure LacksTable (query : Query) : Prop where
  statement : query.toStatement = .error .missingTable
  sql : query.sql = .error .missingTable
  parameterized : query.parameterized = .error .missingTable
  shape : query.resultShape = .error .missingTable

section Unscoped

variable (query : Query) (unscoped : query.scope = .empty)

include unscoped

theorem typeOf?_unscoped (column : String) : query.scope.typeOf? column = none := by
  rw [unscoped]
  rfl

theorem require_unscoped (column : String) :
    query.scope.require column = .error (query.scope.unknownColumn column) := by
  simp [Scope.require, typeOf?_unscoped query unscoped]

theorem select_unscoped (column : String) (rest : List String) :
    query.select (column :: rest) = .error (query.scope.unknownColumn column) := by
  simp [select, typeOf?_unscoped query unscoped]

theorem selectAs_unscoped (label column : String) (rest : List (String × String)) :
    query.selectAs ((label, column) :: rest) = .error (query.scope.unknownColumn column) := by
  simp [selectAs, labelFault?, typeOf?_unscoped query unscoped]

theorem filter_unscoped (condition : Condition) (rest : List Condition) :
    query.filter (condition :: rest) =
      .error (query.scope.unknownColumn condition.column) := by
  simp [filter, conditionFault?, typeOf?_unscoped query unscoped]

theorem order_unscoped (clause : OrderBy) :
    query.order clause = .error (query.scope.unknownColumn clause.column) := by
  simp [Query.order, require_unscoped query unscoped, bind, Except.bind]

theorem join_unscoped (table left right : String) :
    query.join table left right =
      if query.registry.contains table then .error (query.scope.unknownColumn left)
      else .error (.schema (.unknownJoinTable table query.scope.describe)) := by
  unfold Query.join Registry.contains
  cases query.registry.table? table with
  | none => rfl
  | some joined => simp [require_unscoped query unscoped, bind, Except.bind]

theorem refusesNames_unscoped : query.RefusesNames where
  select columns given := by
    obtain ⟨column, rest, rfl⟩ := List.exists_cons_of_ne_nil given
    exact ⟨_, select_unscoped query unscoped column rest, rfl⟩
  selectAs pairs given := by
    obtain ⟨⟨label, column⟩, rest, rfl⟩ := List.exists_cons_of_ne_nil given
    exact ⟨_, selectAs_unscoped query unscoped label column rest, rfl⟩
  filter conditions given := by
    obtain ⟨condition, rest, rfl⟩ := List.exists_cons_of_ne_nil given
    exact ⟨_, filter_unscoped query unscoped condition rest, rfl⟩
  order clause := ⟨_, order_unscoped query unscoped clause, rfl⟩
  join table left right := by
    rw [join_unscoped query unscoped]
    split
    · exact ⟨_, rfl, rfl⟩
    · exact ⟨_, rfl, rfl⟩

end Unscoped

theorem lacksTable_of_unset (query : Query) (unset : query.table = none) :
    query.LacksTable where
  statement := by simp [toStatement, unset]
  sql := by simp [sql, toStatement, unset, Except.map]
  parameterized := by simp [parameterized, toStatement, unset, Except.map]
  shape := by simp [resultShape, unset]

theorem fromTable_congr (query other : Query) (sameRegistry : query.registry = other.registry)
    (sameOptions : query.options = other.options) (table : String) :
    query.fromTable table = other.fromTable table := by
  simp only [fromTable, sameRegistry, sameOptions]

theorem root_tableless (registry : Registry) : (root registry).Tableless registry :=
  ⟨rfl, rfl, rfl, rfl, rfl, rfl, rfl⟩

/-- A step that succeeds without choosing a base table leaves a query without one as bare as it
was: a selection or a list of conditions that passes is empty. -/
theorem apply_tableless (registry : Registry) (query next : Query) (step : Step)
    (tableless : query.Tableless registry) (other : step.kind ≠ .table)
    (applied : query.apply step = .ok next) : next.Tableless registry := by
  obtain ⟨sameRegistry, table, unscoped, selection, conditions, orderBy, joins⟩ := tableless
  cases step with
  | fromTable chosen => exact absurd rfl other
  | withOptions _ | limit _ | offset _ =>
    obtain rfl := (ok_success _ next).mp applied
    exact ⟨sameRegistry, table, unscoped, selection, conditions, orderBy, joins⟩
  | select columns =>
    cases columns with
    | nil =>
      obtain ⟨_, rfl⟩ := (select_ok query next []).mp applied
      exact ⟨sameRegistry, table, unscoped, rfl, conditions, orderBy, joins⟩
    | cons column rest =>
      have failed := select_unscoped query unscoped column rest
      exact absurd (failed.symm.trans applied) (by simp)
  | selectAs pairs =>
    cases pairs with
    | nil =>
      obtain ⟨_, rfl⟩ := (selectAs_ok query next []).mp applied
      exact ⟨sameRegistry, table, unscoped, rfl, conditions, orderBy, joins⟩
    | cons pair rest =>
      have failed := selectAs_unscoped query unscoped pair.1 pair.2 rest
      exact absurd (failed.symm.trans applied) (by simp)
  | filter given =>
    cases given with
    | nil =>
      obtain ⟨_, rfl⟩ := (filter_ok query next []).mp applied
      exact ⟨sameRegistry, table, unscoped, selection, rfl, orderBy, joins⟩
    | cons condition rest =>
      have failed := filter_unscoped query unscoped condition rest
      exact absurd (failed.symm.trans applied) (by simp)
  | order clause =>
    have failed := order_unscoped query unscoped clause
    exact absurd (failed.symm.trans applied) (by simp)
  | join joined left right =>
    obtain ⟨error, failed, _⟩ := (refusesNames_unscoped query unscoped).join joined left right
    exact absurd (failed.symm.trans applied) (by simp)

theorem run_tableless (registry : Registry) (steps : List Step) (query last : Query)
    (noTable : ∀ table, Step.fromTable table ∉ steps) (tableless : query.Tableless registry)
    (ran : query.run steps = .ok last) : last.Tableless registry := by
  induction steps generalizing query with
  | nil => exact (run_nil query last).mp ran ▸ tableless
  | cons step rest ih =>
    obtain ⟨next, applied, ran⟩ := (run_cons query last step rest).mp ran
    have other : step.kind ≠ .table := by
      intro chosen
      obtain ⟨table, rfl⟩ := step.eq_fromTable chosen
      exact noTable table List.mem_cons_self
    have noLater (table : String) (member : Step.fromTable table ∈ rest) : False :=
      noTable table (List.mem_cons_of_mem step member)
    exact ih next noLater (apply_tableless registry query next step tableless other applied) ran

/-- As long as no choice of a base table has succeeded, whatever else was attempted, a query holds
nothing but options, limit and offset, refuses every name and has no statement, and a base table
starts on it as it does on a root with its options. -/
theorem nothing_without_table (registry : Registry) (steps : List Step) (query : Query)
    (attempted : (root registry).attempts steps = query)
    (noTable : ∀ table, Step.fromTable table ∉ (root registry).succeeded steps) :
    query.Tableless registry ∧ query.RefusesNames ∧ query.LacksTable ∧
      ∀ table, query.fromTable table =
        ((root registry).withOptions query.options).fromTable table := by
  have ran := run_succeeded (root registry) steps
  rw [attempted] at ran
  have tableless := run_tableless registry _ _ _ noTable (root_tableless registry) ran
  refine ⟨tableless, ?_, ?_, ?_⟩
  · exact refusesNames_unscoped query tableless.scope
  · exact lacksTable_of_unset query tableless.table
  · intro table
    exact fromTable_congr query ((root registry).withOptions query.options)
      tableless.sameRegistry rfl table

/-- Steps of which only those succeed that name nothing. -/
def namelessSteps : List Step :=
  [.limit 3, .fromTable "nobody", .select ["id"], .withOptions ⟨true⟩, .select [], .filter [],
    .join "posts" "id" "userId", .order ⟨"id", .ascending⟩, .selectAs [], .offset 1]

theorem nameless_without_table : ∃ query,
    (root sampleRegistry).attempts namelessSteps = query ∧
      (root sampleRegistry).succeeded namelessSteps =
        [.limit 3, .withOptions ⟨true⟩, .select [], .filter [], .selectAs [], .offset 1] ∧
      query.Tableless sampleRegistry ∧ query.RefusesNames ∧ query.LacksTable ∧
      query.fromTable "users" = ((root sampleRegistry).withOptions ⟨true⟩).fromTable "users" := by
  have kept : (root sampleRegistry).succeeded namelessSteps =
      [.limit 3, .withOptions ⟨true⟩, .select [], .filter [], .selectAs [], .offset 1] := rfl
  obtain ⟨tableless, refuses, lacks, begins⟩ :=
    nothing_without_table sampleRegistry namelessSteps _ rfl (by simp [kept])
  exact ⟨_, rfl, kept, tableless, refuses, lacks, begins "users"⟩

end Query

end TypedSelect
