import TypedSelect.Proofs.JoinOrder
import TypedSelect.Proofs.OutputShape

/-! A statement is rebuilt from itself. The steps that its clauses name, taken in one fixed order,
succeed whatever steps first led to it, and end in a query with the same statement. Joins can be
taken again because each step keeps them so; the other clauses because they fit the final scope. -/
namespace TypedSelect

namespace Statement

/-- Selects columns under their labels if all of them have one, else under their own names. -/
def selectionStep (columns : List SelectColumn) : Step :=
  if columns.all (·.label.isSome) then
    .selectAs (columns.map fun column => (column.outputName, column.column))
  else .select (columns.map (·.column))

def clauseSteps (statement : Statement) : List Step :=
  (if statement.columns.isEmpty then [] else [selectionStep statement.columns]) ++
    [.filter statement.conditions] ++ (statement.orderBy.map Step.order).toList ++
    (statement.limit.map Step.limit).toList ++ (statement.offset.map Step.offset).toList

/-- The steps that build a statement: base table, joins, selection, conditions, order, counts. -/
def steps (statement : Statement) : List Step :=
  Query.joinSteps statement.table statement.joins ++ statement.clauseSteps

end Statement

namespace Selection

theorem labels_selectColumns (selection : Selection) :
    (∀ column ∈ selection.selectColumns, column.label.isSome) ∨
      ∀ column ∈ selection.selectColumns, column.label = none := by
  cases selection with
  | all => exact .inr nofun
  | columns names => exact .inr (List.forall_mem_map.mpr fun _ _ => rfl)
  | labelled pairs => exact .inl (List.forall_mem_map.mpr fun _ _ => rfl)

end Selection

namespace Query

/-- What is left of a query without its options and all clauses but the joins. -/
def bare (query : Query) : Query :=
  { root query.registry with
    table := query.table
    scope := query.scope
    joins := query.joins }

theorem joinSteps_concat (table : String) (joins : List JoinClause) (join : JoinClause) :
    joinSteps table (joins ++ [join]) = joinSteps table joins ++ [join.step] := by
  simp [joinSteps]

/-- The base table and the joins of a query can be chosen again from the root. -/
def JoinsReplay (registry : Registry) (query : Query) : Prop :=
  query.registry = registry ∧ ∀ table, query.table = some table →
    (root registry).run (joinSteps table query.joins) = .ok query.bare

theorem fromTable_joinsReplay (registry : Registry) (query next : Query) (table : String)
    (sameRegistry : query.registry = registry) (applied : query.fromTable table = .ok next) :
    next.JoinsReplay registry := by
  subst sameRegistry
  obtain ⟨found, registered, rfl⟩ := (fromTable_ok query next table).mp applied
  refine ⟨rfl, fun based chosen => ?_⟩
  obtain rfl := Option.some.inj chosen
  change (root query.registry).run [.fromTable table] = _
  rw [run_singleton]
  exact (fromTable_ok (root query.registry) _ table).mpr ⟨found, registered, rfl⟩

theorem join_joinsReplay (registry : Registry) (query next : Query) (table left right : String)
    (replay : query.JoinsReplay registry) (applied : query.join table left right = .ok next) :
    next.JoinsReplay registry := by
  obtain ⟨joined, registered, known, owned, free, rfl⟩ :=
    (join_ok query next table left right).mp applied
  refine ⟨replay.1, fun based chosen => ?_⟩
  change (root registry).run (joinSteps based (query.joins ++ [⟨table, left, right⟩])) = _
  rw [joinSteps_concat]
  refine (run_append _ _ _ _).mpr ⟨query.bare, replay.2 based chosen, ?_⟩
  rw [run_singleton]
  exact (join_ok query.bare _ table left right).mpr
    ⟨joined, registered, known, owned, free, rfl⟩

theorem clause_joinsReplay (registry : Registry) (query next : Query) (step : Step)
    (notTable : step.kind ≠ .table) (notJoin : step.kind ≠ .join)
    (replay : query.JoinsReplay registry) (applied : query.apply step = .ok next) :
    next.JoinsReplay registry := by
  obtain rfl := apply_effect query next step notTable applied
  have unjoined : step.join? = none := by
    cases step with
    | join _ _ _ => exact absurd rfl notJoin
    | _ => rfl
  refine ⟨replay.1, fun table based => ?_⟩
  have again := replay.2 table based
  unfold bare effect
  rw [unjoined, Option.toList_none, List.append_nil]
  exact again

theorem apply_joinsReplay (registry : Registry) (query : Query) (step : Step) (next : Query)
    (replay : query.JoinsReplay registry) (applied : query.apply step = .ok next) :
    next.JoinsReplay registry := by
  cases step with
  | fromTable table => exact fromTable_joinsReplay registry query next table replay.1 applied
  | join table left right =>
    exact join_joinsReplay registry query next table left right replay applied
  | _ =>
    refine clause_joinsReplay registry query next _ ?_ ?_ replay applied
    all_goals nofun

theorem run_joinsReplay (registry : Registry) (steps : List Step) (query : Query)
    (reached : (root registry).run steps = .ok query) : query.JoinsReplay registry :=
  run_invariant (JoinsReplay registry) (apply_joinsReplay registry) steps (root registry) query
    ⟨rfl, nofun⟩ reached

theorem run_chain (query next last : Query) (steps more : List Step)
    (first : query.run steps = .ok next) (second : next.run more = .ok last) :
    query.run (steps ++ more) = .ok last :=
  (run_append query last steps more).mpr ⟨next, first, second⟩

theorem apply_selectionStep (base : Query) (selection : Selection) (proper : selection.Proper)
    (known : ∀ column ∈ selection.selectColumns, (base.scope.typeOf? column.column).isSome)
    (given : selection.selectColumns ≠ []) :
    base.apply (Statement.selectionStep selection.selectColumns) =
      .ok { base with selection := selection } := by
  cases selection with
  | all => exact absurd rfl given
  | columns names =>
    obtain ⟨first, rest, rfl⟩ := List.exists_cons_of_ne_nil proper
    have step : Statement.selectionStep (Selection.columns (first :: rest)).selectColumns =
        .select (first :: rest) := by
      simp [Statement.selectionStep, Selection.selectColumns, Function.comp_def]
    rw [step]
    refine (select_ok base _ (first :: rest)).mpr ⟨fun column member => ?_, rfl⟩
    exact known ⟨column, none⟩ (List.mem_map_of_mem member)
  | labelled pairs =>
    obtain ⟨first, rest, rfl⟩ := List.exists_cons_of_ne_nil proper.1
    have step : Statement.selectionStep (Selection.labelled (first :: rest)).selectColumns =
        .selectAs (first :: rest) := by
      simp [Statement.selectionStep, Selection.selectColumns, SelectColumn.outputName,
        Function.comp_def]
    rw [step]
    refine (selectAs_ok base _ (first :: rest)).mpr ⟨(labelFault?_none _ _ _).mpr
      ⟨fun pair member => ⟨?_, List.not_mem_nil⟩, proper.2⟩, rfl⟩
    exact known ⟨pair.2, some pair.1⟩ (List.mem_map_of_mem member)

theorem run_selectionSteps (base : Query) (selection : Selection) (proper : selection.Proper)
    (known : ∀ column ∈ selection.selectColumns, (base.scope.typeOf? column.column).isSome)
    (unselected : base.selection = .all) :
    base.run (if selection.selectColumns.isEmpty then []
        else [Statement.selectionStep selection.selectColumns]) =
      .ok { base with selection := selection } := by
  split
  · rename_i empty
    cases selection with
    | all => exact unselected ▸ rfl
    | columns names => exact absurd (by simpa [Selection.selectColumns] using empty) proper
    | labelled pairs => exact absurd (by simpa [Selection.selectColumns] using empty) proper.1
  · rename_i given
    rw [run_singleton]
    exact apply_selectionStep base selection proper known (by simpa using given)

theorem run_filter (base : Query) (conditions : List Condition)
    (sound : ∀ condition ∈ conditions, conditionFault? base.scope condition = none)
    (distinct : (conditions.map (·.column)).Nodup) :
    base.run [.filter conditions] = .ok { base with conditions := conditions } := by
  rw [run_singleton]
  refine (filter_ok base _ conditions).mpr ⟨sound, ?_⟩
  rw [lastOfEach_of_nodup Condition.column conditions distinct]

/-- A step for a clause that may be absent. -/
theorem run_optional {α : Type} (query : Query) (step : α → Step) (next : Option α → Query)
    (clause : Option α)
    (present : ∀ given ∈ clause, query.apply (step given) = .ok (next (some given)))
    (absent : next none = query) : query.run (clause.map step).toList = .ok (next clause) := by
  cases clause with
  | none => exact congrArg Except.ok absent.symm
  | some given =>
    change query.run [step given] = _
    rw [run_singleton]
    exact present given rfl

theorem run_order (base : Query) (order : Option OrderBy)
    (known : ∀ clause ∈ order, (base.scope.typeOf? clause.column).isSome)
    (unordered : base.orderBy = none) :
    base.run (order.map Step.order).toList = .ok { base with orderBy := order } := by
  refine run_optional base Step.order (fun order => { base with orderBy := order }) order ?_ ?_
  · exact fun clause given => (order_ok base _ clause).mpr ⟨known clause given, rfl⟩
  · exact unordered ▸ rfl

theorem run_clauseSteps (query : Query) (statement : Statement)
    (clauses : query.ClausesIn query.scope) (proper : query.selection.Proper)
    (distinct : (query.conditions.map (·.column)).Nodup)
    (finished : query.toStatement = .ok statement) :
    query.bare.run statement.clauseSteps = .ok (query.withOptions .default) := by
  obtain ⟨table, based, _, rfl⟩ := (toStatement_ok query statement).mp finished
  -- Each clause is still absent when its turn comes, so that a statement without it needs no step.
  have selects := run_selectionSteps query.bare query.selection proper clauses.selected rfl
  have filters := run_chain _ _ _ _ _ selects
    (run_filter _ query.conditions clauses.restricted distinct)
  have orders := run_chain _ _ _ _ _ filters (run_order _ query.orderBy clauses.ordered rfl)
  have limits := run_chain _ _ _ _ _ orders
    (run_optional _ Step.limit (fun limit => { query.bare with
      selection := query.selection
      conditions := query.conditions
      orderBy := query.orderBy
      limit := limit }) query.limit (fun _ _ => rfl) rfl)
  exact run_chain _ _ _ _ _ limits
    (run_optional _ Step.offset (fun offset => { query.withOptions .default with offset := offset })
      query.offset (fun _ _ => rfl) rfl)

/-- The steps of a statement that some steps led to lead to it again, and to a query that differs
from the first one in its options only. -/
theorem statement_rebuilds (registry : Registry) (steps : List Step) (query : Query)
    (statement : Statement) (reached : (root registry).run steps = .ok query)
    (finished : query.toStatement = .ok statement) :
    ((∀ column ∈ statement.columns, column.label.isSome) ∨
        ∀ column ∈ statement.columns, column.label = none) ∧
      ∃ rebuilt, (root registry).run statement.steps = .ok rebuilt ∧
        rebuilt = query.withOptions .default ∧ rebuilt.toStatement = .ok statement ∧
        rebuilt.scope.columns = query.scope.columns ∧
        rebuilt.resultShape = query.resultShape := by
  have consistent := run_consistent registry steps query reached
  have proper := run_proper registry steps query reached
  have again := run_clauseSteps query statement consistent.clauses proper consistent.distinct
    finished
  obtain ⟨table, based, _, rfl⟩ := (toStatement_ok query statement).mp finished
  have joined := (run_joinsReplay registry steps query reached).2 table based
  refine ⟨query.selection.labels_selectColumns, query.withOptions .default, ?_, rfl, ?_, rfl, rfl⟩
  · exact (run_append _ _ _ _).mpr ⟨query.bare, joined, again⟩
  · exact (toStatement_ok _ _).mpr ⟨table, based, by simp [withOptions, QueryOptions.default], rfl⟩

def detourSteps : List Step :=
  [.fromTable "posts", .filter [⟨"title", .literal (.text "x")⟩], .withOptions ⟨true⟩,
    .fromTable "users", .selectAs [("who", "email")],
    .filter [⟨"id", .literal (.int 4)⟩, ⟨"email", .literal (.text "a")⟩, ⟨"id", .literal (.int 5)⟩],
    .order ⟨"email", .descending⟩, .join "posts" "id" "userId", .limit 3,
    .select ["title", "id", "title"]]

theorem detour_rebuilds : ∃ query statement rebuilt,
    (root sampleRegistry).run detourSteps = .ok query ∧ query.toStatement = .ok statement ∧
      statement.steps = [.fromTable "users", .join "posts" "id" "userId",
        .select ["title", "id", "title"],
        .filter [⟨"id", .literal (.int 5)⟩, ⟨"email", .literal (.text "a")⟩],
        .order ⟨"email", .descending⟩, .limit 3] ∧
      (root sampleRegistry).run statement.steps = .ok rebuilt ∧
      rebuilt = query.withOptions .default ∧ rebuilt.toStatement = .ok statement ∧
      rebuilt.resultShape = query.resultShape := by
  obtain ⟨query, statement, reached, finished, listed⟩ : ∃ query statement,
      (root sampleRegistry).run detourSteps = .ok query ∧ query.toStatement = .ok statement ∧
        statement.steps = [.fromTable "users", .join "posts" "id" "userId",
          .select ["title", "id", "title"],
          .filter [⟨"id", .literal (.int 5)⟩, ⟨"email", .literal (.text "a")⟩],
          .order ⟨"email", .descending⟩, .limit 3] := ⟨_, _, rfl, rfl, rfl⟩
  obtain ⟨_, rebuilt, ran, same, again, _, shape⟩ :=
    statement_rebuilds sampleRegistry detourSteps query statement reached finished
  exact ⟨query, statement, rebuilt, reached, finished, listed, ran, same, again, shape⟩

end Query

end TypedSelect
