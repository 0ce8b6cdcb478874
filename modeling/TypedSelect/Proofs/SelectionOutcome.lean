import TypedSelect.Proofs.FirstFailing
import TypedSelect.Proofs.ScopeErrors

/-! What comes of selecting columns, by name or under labels. A list of names is taken if all of
them are in scope, a list of labelled columns if moreover no label occurs twice; otherwise the first
fault is reported. What is taken is the selection of the next query, item for item, and nothing else
of the query changes. -/
namespace TypedSelect

namespace Scope

def columnNames (scope : Scope) : List String :=
  scope.columns.map (·.name)

theorem typeOf?_isSome (scope : Scope) (column : String) :
    (scope.typeOf? column).isSome ↔ column ∈ scope.columnNames :=
  columnType?_isSome scope.columns column

theorem typeOf?_isNone (scope : Scope) (column : String) :
    (scope.typeOf? column).isNone = decide (column ∉ scope.columnNames) :=
  columnType?_isNone scope.columns column

/-- Labelled columns without a fault: they are in scope, and no label occurs twice. -/
structure Labels (scope : Scope) (pairs : List (String × String)) : Prop where
  known : ∀ pair ∈ pairs, pair.2 ∈ scope.columnNames
  distinct : (pairs.map Prod.fst).Nodup

/-- The fault of a labelled column that comes after others. -/
inductive LabelRefused (scope : Scope) (earlier : List (String × String))
    (pair : String × String) : QueryError → Prop where
  | unknown (absent : pair.2 ∉ scope.columnNames) :
    LabelRefused scope earlier pair (.schema (.unknownColumn pair.2 (contextText scope.tables)))
  | taken (known : pair.2 ∈ scope.columnNames) (used : pair.1 ∈ earlier.map Prod.fst) :
    LabelRefused scope earlier pair (.schema (.duplicateAlias pair.1))

/-- The fault of the first labelled column that has one. -/
def FirstRefused (scope : Scope) (pairs : List (String × String)) (error : QueryError) : Prop :=
  ∃ earlier pair later, pairs = earlier ++ pair :: later ∧ scope.Labels earlier ∧
    scope.LabelRefused earlier pair error

end Scope

namespace Selection

theorem ofColumns_eq (columns : List String) :
    ofColumns columns = if columns = [] then .all else .columns columns := by
  simp only [ofColumns, List.isEmpty_iff]

theorem selectColumns_ofColumns (columns : List String) :
    (ofColumns columns).selectColumns = columns.map fun column => ⟨column, none⟩ := by
  cases columns <;> rfl

theorem ofPairs_eq (pairs : List (String × String)) :
    ofPairs pairs = if pairs = [] then .all else .labelled pairs := by
  simp only [ofPairs, List.isEmpty_iff]

theorem selectColumns_ofPairs (pairs : List (String × String)) :
    (ofPairs pairs).selectColumns = pairs.map fun pair => ⟨pair.2, some pair.1⟩ := by
  cases pairs <;> rfl

end Selection

namespace Query

theorem select_failure (query : Query) (columns : List String) (error : QueryError) :
    query.select columns = .error error ↔
      ∃ column, FirstFailing (· ∈ query.scope.columnNames) columns column ∧
        error = .schema (.unknownColumn column (contextText query.scope.tables)) := by
  have failing (column : String) : (query.scope.typeOf? column).isNone = true ↔
      column ∉ query.scope.columnNames := by
    rw [Scope.typeOf?_isNone, decide_eq_true_iff]
  simp only [← find?_firstFailing _ _ failing]
  unfold select
  simp only [Scope.unknownColumn_eq]
  cases columns.find? _ with
  | none => simp
  | some column => simp only [Except.error.injEq, Option.some.injEq, exists_eq_left', eq_comm]

theorem labelFault?_append (scope : Scope) (taken : List String)
    (pairs more : List (String × String)) :
    labelFault? scope taken (pairs ++ more) = (labelFault? scope taken pairs).or
      (labelFault? scope ((pairs.map Prod.fst).reverse ++ taken) more) := by
  induction pairs generalizing taken with
  | nil => rfl
  | cons pair rest ih =>
    obtain ⟨label, column⟩ := pair
    simp only [List.cons_append, labelFault?, ih, List.map_cons, List.reverse_cons,
      List.append_assoc]
    split
    · rfl
    · split <;> rfl

/-- A fault of a list is one of a single item, with the labels before it taken. -/
theorem labelFault?_split (scope : Scope) (taken : List String)
    (pairs : List (String × String)) (error : QueryError) :
    labelFault? scope taken pairs = some error ↔ ∃ earlier pair later,
      pairs = earlier ++ pair :: later ∧ labelFault? scope taken earlier = none ∧
        labelFault? scope ((earlier.map Prod.fst).reverse ++ taken) [pair] = some error := by
  constructor
  · intro fault
    induction pairs generalizing taken with
    | nil => cases fault
    | cons pair rest ih =>
      -- The first item is checked alone, the rest with its label among those that are taken.
      have split := labelFault?_append scope taken [pair] rest
      cases first : labelFault? scope taken [pair] with
      | some found =>
        rw [List.singleton_append, fault, first, Option.some_or] at split
        exact ⟨[], pair, rest, rfl, rfl, first.trans split.symm⟩
      | none =>
        rw [List.singleton_append, fault, first, Option.none_or] at split
        obtain ⟨earlier, refused, later, rfl, passed, found⟩ := ih _ split.symm
        refine ⟨pair :: earlier, refused, later, rfl, ?_, ?_⟩
        · rw [← List.singleton_append, labelFault?_append, first, passed]
          rfl
        · simpa using found
  · rintro ⟨earlier, pair, later, rfl, passed, found⟩
    rw [labelFault?_append, passed, Option.none_or, ← List.singleton_append, labelFault?_append,
      found, Option.some_or]

theorem labelFault?_singleton (scope : Scope) (earlier : List (String × String))
    (pair : String × String) (error : QueryError) :
    labelFault? scope ((earlier.map Prod.fst).reverse ++ []) [pair] = some error ↔
      scope.LabelRefused earlier pair error := by
  obtain ⟨label, column⟩ := pair
  simp only [labelFault?, Scope.typeOf?_isNone, List.append_nil, List.mem_reverse,
    decide_eq_true_eq, Scope.unknownColumn_eq]
  constructor
  · intro fault
    split at fault
    · rename_i absent
      rw [← Option.some.inj fault]
      exact .unknown absent
    · rename_i known
      split at fault
      · rename_i used
        rw [← Option.some.inj fault]
        exact .taken (Classical.not_not.mp known) used
      · cases fault
  · rintro (absent | ⟨known, used⟩)
    · rw [if_pos absent]
    · rw [if_neg (Classical.not_not.mpr known), if_pos used]

theorem labelFault?_none_iff (scope : Scope) (pairs : List (String × String)) :
    labelFault? scope [] pairs = none ↔ scope.Labels pairs := by
  rw [labelFault?_none]
  simp only [Scope.typeOf?_isSome, List.not_mem_nil, not_false_eq_true, and_true]
  exact ⟨fun ⟨known, distinct⟩ => ⟨known, distinct⟩, fun labels => ⟨labels.known, labels.distinct⟩⟩

theorem selectAs_failure (query : Query) (pairs : List (String × String)) (error : QueryError) :
    query.selectAs pairs = .error error ↔ query.scope.FirstRefused pairs error := by
  have reported : query.selectAs pairs = .error error ↔
      labelFault? query.scope [] pairs = some error := by
    unfold selectAs
    cases labelFault? query.scope [] pairs <;> simp
  rw [reported, labelFault?_split]
  simp only [labelFault?_none_iff, labelFault?_singleton]
  rfl

/-- Something is in scope only where a base table is chosen. -/
theorem table_of_known (registry : Registry) (steps : List Step) (query : Query)
    (reached : (root registry).run steps = .ok query) (column : String)
    (known : column ∈ query.scope.columnNames) : ∃ table, query.table = some table := by
  cases based : query.table with
  | some table => exact ⟨table, rfl⟩
  | none =>
    have consistent := run_consistent registry steps query reached
    have unjoined := joins_nil_of_no_table registry query consistent based
    have columns := columns_of_run registry steps query reached
    rw [tableNames, based, unjoined] at columns
    rw [Scope.columnNames, columns] at known
    cases known

theorem toStatement_selected (query : Query) (statement : Statement)
    (finished : query.toStatement = .ok statement) :
    statement.columns = query.selection.selectColumns := by
  obtain ⟨_, _, _, rfl⟩ := (toStatement_ok query statement).mp finished
  rfl

/-- What a step comes to that selects anew: whether it is taken, what it reports if not, and the
query and the columns of a statement if it is. -/
structure Selects (query : Query) (outcome : Except QueryError Query) (taken : Prop)
    (refused : QueryError → Prop) (selection : Selection) (columns : List SelectColumn) :
    Prop where
  success : (∃ next, outcome = .ok next) ↔ taken
  failure : ∀ error, outcome = .error error ↔ refused error
  selected : ∀ next, outcome = .ok next → next = { query with selection := selection }
  finished : ∀ next, outcome = .ok next → columns ≠ [] →
    ∃ statement, next.toStatement = .ok statement
  listed : ∀ next statement, outcome = .ok next → next.toStatement = .ok statement →
    statement.columns = columns

theorem selects_of (query : Query) (outcome : Except QueryError Query) (taken : Prop)
    (refused : QueryError → Prop) (selection : Selection)
    (success : ∀ next, outcome = .ok next ↔ taken ∧ next = { query with selection := selection })
    (failure : ∀ error, outcome = .error error ↔ refused error)
    (based : taken → selection.selectColumns ≠ [] → ∃ table, query.table = some table) :
    query.Selects outcome taken refused selection selection.selectColumns where
  success := by simp only [success, exists_and_left, exists_eq, and_true]
  failure := failure
  selected next applied := ((success next).mp applied).2
  finished next applied given := by
    obtain ⟨passed, rfl⟩ := (success next).mp applied
    obtain ⟨table, chosen⟩ := based passed given
    refine ⟨_, (toStatement_ok _ _).mpr ⟨table, chosen, ?_, rfl⟩⟩
    -- Strict options refuse only the selection of all columns, which has no columns of its own.
    rintro ⟨_, all⟩
    exact given (congrArg Selection.selectColumns all)
  listed next statement applied finished := by
    obtain ⟨_, rfl⟩ := (success next).mp applied
    exact toStatement_selected _ statement finished

/-- Whatever steps lead to a query, it takes the names that are all in its scope, and the labelled
columns that moreover have labels of their own, and otherwise reports the first fault. What it takes
replaces the selection alone; a statement then lists just these columns, each with its label. -/
theorem selection_decided (registry : Registry) (steps : List Step) (query : Query)
    (reached : (root registry).run steps = .ok query) :
    (∀ columns, query.Selects (query.select columns)
      (∀ column ∈ columns, column ∈ query.scope.columnNames)
      (fun error => ∃ column, FirstFailing (· ∈ query.scope.columnNames) columns column ∧
        error = .schema (.unknownColumn column (contextText query.scope.tables)))
      (if columns = [] then .all else .columns columns)
      (columns.map fun column => ⟨column, none⟩)) ∧
    ∀ pairs, query.Selects (query.selectAs pairs)
      (query.scope.Labels pairs) (query.scope.FirstRefused pairs)
      (if pairs = [] then .all else .labelled pairs)
      (pairs.map fun pair => ⟨pair.2, some pair.1⟩) := by
  have based := table_of_known registry steps query reached
  constructor
  · intro columns
    rw [← Selection.ofColumns_eq, ← Selection.selectColumns_ofColumns]
    refine query.selects_of _ _ _ _ (fun next => ?_) (query.select_failure columns) ?_
    · simp only [select_ok, Scope.typeOf?_isSome]
    · intro known given
      rw [Selection.selectColumns_ofColumns, ne_eq, List.map_eq_nil_iff] at given
      obtain ⟨column, rest, rfl⟩ := List.exists_cons_of_ne_nil given
      exact based column (known column List.mem_cons_self)
  · intro pairs
    rw [← Selection.ofPairs_eq, ← Selection.selectColumns_ofPairs]
    refine query.selects_of _ _ _ _ (fun next => ?_) (query.selectAs_failure pairs) ?_
    · rw [selectAs_ok, labelFault?_none_iff]
    · intro labels given
      rw [Selection.selectColumns_ofPairs, ne_eq, List.map_eq_nil_iff] at given
      obtain ⟨pair, rest, rfl⟩ := List.exists_cons_of_ne_nil given
      exact based pair.2 (labels.known pair List.mem_cons_self)

/-- A label that is taken, on a column that is not in scope. -/
def faultyPairs : List (String × String) :=
  [("key", "id"), ("mail", "email"), ("key", "name"), ("mail", "id")]

theorem faultyPairs_decided : ∃ query next statement,
    (root sampleRegistry).run [.fromTable "users", .selectAs [("key", "id")]] = .ok query ∧
      query.select ["email", "id", "email"] = .ok next ∧
      next = { query with selection := .columns ["email", "id", "email"] } ∧
      next.toStatement = .ok statement ∧
      statement.columns = [⟨"email", none⟩, ⟨"id", none⟩, ⟨"email", none⟩] ∧
      query.selectAs faultyPairs = .error (.schema (.unknownColumn "name" "users")) ∧
      query.scope.FirstRefused faultyPairs (.schema (.unknownColumn "name" "users")) ∧
      ¬ query.scope.Labels faultyPairs := by
  obtain ⟨query, next, reached, taken, refused⟩ : ∃ query next,
      (root sampleRegistry).run [.fromTable "users", .selectAs [("key", "id")]] = .ok query ∧
        query.select ["email", "id", "email"] = .ok next ∧
        query.selectAs faultyPairs = .error (.schema (.unknownColumn "name" "users")) :=
    ⟨_, _, rfl, rfl, rfl⟩
  obtain ⟨named, labelled⟩ := selection_decided sampleRegistry _ query reached
  obtain ⟨statement, finished⟩ :=
    (named ["email", "id", "email"]).finished next taken (List.cons_ne_nil _ _)
  refine ⟨query, next, statement, reached, taken, (named _).selected next taken, finished,
    (named _).listed next statement taken finished, refused,
    ((labelled faultyPairs).failure _).mp refused, ?_⟩
  intro labels
  obtain ⟨other, accepted⟩ := (labelled faultyPairs).success.mpr labels
  exact absurd (refused.symm.trans accepted) (by simp)

end Query

end TypedSelect
