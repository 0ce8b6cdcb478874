import TypedSelect.Proofs.ScopeColumns

/-! What the error of a failed step says about the scope. A column or a join table that is not known
is reported with the tables of the query at which the step failed, in the order in which they came
in; only the right column of a join is looked for in the joined table alone. -/
namespace TypedSelect

/-- The text of the tables that an error names. -/
def QueryError.scopeText? : QueryError → Option String
  | .schema (.unknownColumn _ context) => some context
  | .schema (.unknownJoinTable _ context) => some context
  | _ => none

theorem Scope.scopeText?_unknownColumn (scope : Scope) (column : String) :
    (scope.unknownColumn column).scopeText? = some scope.describe := rfl

theorem QueryError.scopeText?_ofFault (column : String) (type : ColumnType)
    (fault : RestrictionFault) : (ofFault column type fault).scopeText? = none := by
  cases fault <;> rfl

theorem Scope.scopeText?_conflict (scope : Scope) (table : Table) (error : QueryError)
    (conflict : scope.conflict? table = some error) : error.scopeText? = none := by
  obtain ⟨column, _, found⟩ := List.exists_of_findSome?_eq_some conflict
  unfold columnConflict? at found
  split at found
  · split at found
    · cases found
    · obtain rfl := Option.some.inj found
      rfl
  · cases found

namespace Query

theorem select_error (query : Query) (columns : List String) (error : QueryError)
    (failed : query.select columns = .error error) :
    ∃ column, error = query.scope.unknownColumn column := by
  unfold select at failed
  split at failed
  · rename_i column _
    exact ⟨column, (Except.error.inj failed).symm⟩
  · cases failed

theorem labelFault?_error (scope : Scope) (taken : List String)
    (pairs : List (String × String)) (error : QueryError)
    (fault : labelFault? scope taken pairs = some error) :
    (∃ column, error = scope.unknownColumn column) ∨
      ∃ label, error = .schema (.duplicateAlias label) := by
  induction pairs generalizing taken with
  | nil => cases fault
  | cons pair rest ih =>
    obtain ⟨label, column⟩ := pair
    unfold labelFault? at fault
    split at fault
    · exact .inl ⟨column, (Option.some.inj fault).symm⟩
    · split at fault
      · exact .inr ⟨label, (Option.some.inj fault).symm⟩
      · exact ih (label :: taken) fault

theorem selectAs_error (query : Query) (pairs : List (String × String)) (error : QueryError)
    (failed : query.selectAs pairs = .error error) :
    labelFault? query.scope [] pairs = some error := by
  unfold selectAs at failed
  split at failed
  · rename_i fault found
    rw [found, Except.error.inj failed]
  · cases failed

theorem conditionFault?_error (scope : Scope) (condition : Condition) (error : QueryError)
    (fault : conditionFault? scope condition = some error) :
    error = scope.unknownColumn condition.column ∨
      ∃ type found, error = .ofFault condition.column type found := by
  unfold conditionFault? at fault
  split at fault
  · rename_i type _
    obtain ⟨found, _, rfl⟩ := Option.map_eq_some_iff.mp fault
    exact .inr ⟨type, found, rfl⟩
  · exact .inl (Option.some.inj fault).symm

theorem filter_error (query : Query) (conditions : List Condition) (error : QueryError)
    (failed : query.filter conditions = .error error) :
    ∃ condition ∈ conditions, conditionFault? query.scope condition = some error :=
  List.exists_of_findSome?_eq_some ((filter_failure query conditions error).mp failed)

theorem join_error (query : Query) (table left right : String) (error : QueryError)
    (failed : query.join table left right = .error error) :
    error = .schema (.unknownJoinTable table query.scope.describe) ∨
      error = query.scope.unknownColumn left ∨
      (query.scope.typeOf? left).isSome ∧ error = .schema (.unknownColumn right table) ∨
      ∃ joined, query.scope.conflict? joined = some error := by
  rcases (join_failure query table left right error).mp failed with
    ⟨_, same⟩ | ⟨joined, _, ⟨_, same⟩ | ⟨known, ⟨_, same⟩ | ⟨_, conflict⟩⟩⟩
  · exact .inl same
  · exact .inr (.inl same)
  · exact .inr (.inr (.inl ⟨known, same⟩))
  · exact .inr (.inr (.inr ⟨joined, conflict⟩))

theorem apply_error_scope (query : Query) (step : Step) (error : QueryError) (text : String)
    (failed : query.apply step = .error error) (named : error.scopeText? = some text) :
    text = query.scope.describe ∨
      ∃ table left right, step = .join table left right ∧
        (query.scope.typeOf? left).isSome ∧ error = .schema (.unknownColumn right table) := by
  have unknown (column : String) (same : error = query.scope.unknownColumn column) :
      text = query.scope.describe := by
    rw [same, Scope.scopeText?_unknownColumn] at named
    exact (Option.some.inj named).symm
  cases step with
  | withOptions _ | limit _ | offset _ => cases failed
  | fromTable table =>
    change query.fromTable table = .error error at failed
    unfold fromTable at failed
    split at failed
    · cases failed
    · rw [← Except.error.inj failed] at named
      cases named
  | select columns =>
    obtain ⟨column, same⟩ := select_error query columns error failed
    exact .inl (unknown column same)
  | selectAs pairs =>
    have fault := selectAs_error query pairs error failed
    rcases labelFault?_error query.scope [] pairs error fault with ⟨column, same⟩ | ⟨label, rfl⟩
    · exact .inl (unknown column same)
    · cases named
  | filter conditions =>
    obtain ⟨condition, _, fault⟩ := filter_error query conditions error failed
    rcases conditionFault?_error query.scope condition error fault with same | ⟨type, found, rfl⟩
    · exact .inl (unknown condition.column same)
    · rw [QueryError.scopeText?_ofFault] at named
      cases named
  | order clause =>
    change query.order clause = .error error at failed
    rcases (bind_failure _ _ _).mp failed with required | ⟨_, _, other⟩
    · have same := ((query.scope.require_failure clause.column error).mp required).2
      exact .inl (unknown clause.column same)
    · cases other
  | join table left right =>
    rcases join_error query table left right error failed with
      rfl | same | ⟨known, same⟩ | ⟨joined, conflict⟩
    · exact .inl (Option.some.inj named).symm
    · exact .inl (unknown left same)
    · exact .inr ⟨table, left, right, rfl, known, same⟩
    · rw [query.scope.scopeText?_conflict joined error conflict] at named
      cases named

/-- The base table and the joined tables, in the order of the joins. -/
def scopeText (query : Query) : String :=
  match query.table with
  | none => "<none>"
  | some table => String.intercalate ", " (table :: query.joins.map (·.table))

theorem joins_nil_of_no_table (registry : Registry) (query : Query)
    (consistent : query.Consistent registry) (unset : query.table = none) :
    query.joins = [] := by
  cases joins : query.joins with
  | nil => rfl
  | cons join rest =>
    have owned := consistent.joinLeft [] join rest joins
    obtain ⟨table, member, _⟩ := owned
    simp [unset] at member

theorem describe_of_run (registry : Registry) (steps : List Step) (query : Query)
    (reached : (root registry).run steps = .ok query) :
    query.scope.describe = query.scopeText := by
  have consistent := run_consistent registry steps query reached
  unfold Scope.describe
  rw [tables_of_run registry steps query reached]
  unfold tableNames scopeText
  cases based : query.table with
  | none =>
    rw [joins_nil_of_no_table registry query consistent based]
    rfl
  | some table => rfl

/-- The scope of a query that is built by steps from a root, and what errors say of it. -/
theorem reachable_scope (registry : Registry) (steps : List Step) (query : Query)
    (reached : (root registry).run steps = .ok query) :
    query.scope.columns = firstOfEach Column.name (query.tableNames.flatMap registry.declared) ∧
      (query.scope.columns.map (·.name)).Nodup ∧
      (∀ table ∈ query.tableNames, ∀ column ∈ registry.declared table,
        column ∈ query.scope.columns) ∧
      ∀ step error text, query.apply step = .error error → error.scopeText? = some text →
        text = query.scopeText ∨
          ∃ table left right, step = .join table left right ∧
            (query.scope.typeOf? left).isSome ∧ error = .schema (.unknownColumn right table) := by
  have consistent := run_consistent registry steps query reached
  have columns := columns_of_run registry steps query reached
  refine ⟨columns, ?_, mem_columns_of_declared registry query consistent, ?_⟩
  · rw [columns]
    exact nodup_map_firstOfEach Column.name _
  · intro step error text failed named
    rw [← describe_of_run registry steps query reached]
    exact apply_error_scope query step error text failed named

def rejoinedSteps : List Step :=
  [.fromTable "users", .join "posts" "id" "userId", .join "users" "userId" "id"]

theorem rejoined_scope : ∃ query error text,
    (root sampleRegistry).run rejoinedSteps = .ok query ∧
      query.apply (.select ["id", "name"]) = .error error ∧ error.scopeText? = some text ∧
      text = "users, posts, users" ∧ text = query.scopeText ∧
      query.scope.columns = firstOfEach Column.name (query.tableNames.flatMap
        sampleRegistry.declared) ∧
      query.scope.columns.map (·.name) = ["id", "email", "userId", "title"] ∧
      (query.scope.columns.map (·.name)).Nodup ∧
      ∀ table ∈ query.tableNames, ∀ column ∈ sampleRegistry.declared table,
        column ∈ query.scope.columns := by
  obtain ⟨query, error, reached, failed, named, names⟩ : ∃ query error,
      (root sampleRegistry).run rejoinedSteps = .ok query ∧
        query.apply (.select ["id", "name"]) = .error error ∧
        error.scopeText? = some "users, posts, users" ∧
        query.scope.columns.map (·.name) = ["id", "email", "userId", "title"] :=
    ⟨_, _, rfl, rfl, rfl, rfl⟩
  obtain ⟨columns, distinct, declared, errors⟩ :=
    reachable_scope sampleRegistry rejoinedSteps query reached
  refine ⟨query, error, _, reached, failed, named, rfl, ?_, columns, names, distinct, declared⟩
  rcases errors _ error _ failed named with same | ⟨table, left, right, given, known, _⟩
  · exact same
  · cases given

end Query

end TypedSelect
