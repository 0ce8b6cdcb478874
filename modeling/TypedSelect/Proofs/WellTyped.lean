import TypedSelect.Proofs.OperatorInsertion
import TypedSelect.Proofs.Placeholders
import TypedSelect.Proofs.Run

/-! Statements that fit their registry. Every query that is built by steps from a root keeps
the invariant that its clauses name columns of the tables in scope and that all these tables
agree on the types; the statements it stands for are therefore well typed. -/
namespace TypedSelect

def Registry.typeIn? (registry : Registry) (table column : String) : Option ColumnType :=
  (registry.table? table).bind (·.columnType? column)

def Registry.Owns (registry : Registry) (tables : List String) (column : String) : Prop :=
  ∃ table ∈ tables, (registry.typeIn? table column).isSome

/-- A value that may be compared with a column: it fits what each of the tables that has the
column declares for it. -/
structure Registry.Admits (registry : Registry) (tables : List String) (column : String)
    (value : Value) : Prop where
  notNull : value.isNull = false
  finite : ∀ x, value = .float x → x.isFinite = true
  conforms : ∀ table ∈ tables, ∀ type, registry.typeIn? table column = some type →
    value.conformsTo type = true

namespace Statement

def tableNames (statement : Statement) : List String :=
  statement.table :: statement.joins.map (·.table)

structure WellTyped (registry : Registry) (statement : Statement) : Prop where
  registered : ∀ table ∈ statement.tableNames, registry.contains table = true
  joinRight : ∀ join ∈ statement.joins, registry.Owns [join.table] join.right
  joinLeft : ∀ earlier join later, statement.joins = earlier ++ join :: later →
    registry.Owns (statement.table :: earlier.map (·.table)) join.left
  selected : ∀ column ∈ statement.columns, registry.Owns statement.tableNames column.column
  restricted : ∀ condition ∈ statement.conditions,
    registry.Owns statement.tableNames condition.column
  ordered : ∀ order ∈ statement.orderBy, registry.Owns statement.tableNames order.column
  distinct : (statement.conditions.map (·.column)).Nodup
  sets : ∀ condition ∈ statement.conditions, ∀ set,
    condition.restriction = .operators set → Operator.WellFormedList set.toList
  operands : ∀ condition ∈ statement.conditions, ∀ value ∈ condition.restriction.operands,
    registry.Admits statement.tableNames condition.column value
  parameters : ∀ value ∈ statement.parameterized.2, ∃ condition ∈ statement.conditions,
    value ∈ condition.restriction.operands ∧
      registry.Admits statement.tableNames condition.column value

end Statement

theorem OperatorSet.wellFormed_of_fault?_none (set : OperatorSet) (type : ColumnType)
    (sound : set.fault? type = none) : Operator.WellFormedList set.toList := by
  obtain ⟨nonempty, passed⟩ := (fault?_none type set).mp sound
  refine ⟨nonempty, set.increasing, ?_⟩
  intro member
  exact ((Operator.fault?_none type _).mp (passed _ member)).1 rfl

namespace Query

def tableNames (query : Query) : List String :=
  query.table.toList ++ query.joins.map (·.table)

structure ClausesIn (query : Query) (scope : Scope) : Prop where
  selected : ∀ column ∈ query.selection.selectColumns, (scope.typeOf? column.column).isSome
  restricted : ∀ condition ∈ query.conditions, conditionFault? scope condition = none
  ordered : ∀ order ∈ query.orderBy, (scope.typeOf? order.column).isSome

/-- What holds of every query that is built by steps from a registry's root. -/
structure Consistent (registry : Registry) (query : Query) : Prop where
  sameRegistry : query.registry = registry
  registered : ∀ table ∈ query.tableNames, registry.contains table = true
  represents : query.scope.Represents (query.tableNames.filterMap registry.table?)
  joinRight : ∀ join ∈ query.joins, registry.Owns [join.table] join.right
  joinLeft : ∀ earlier join later, query.joins = earlier ++ join :: later →
    registry.Owns (query.table.toList ++ earlier.map (·.table)) join.left
  clauses : query.ClausesIn query.scope
  distinct : (query.conditions.map (·.column)).Nodup

theorem conditionFault?_kept (scope wider : Scope)
    (kept : ∀ column type, scope.typeOf? column = some type → wider.typeOf? column = some type)
    (condition : Condition) (sound : conditionFault? scope condition = none) :
    conditionFault? wider condition = none := by
  unfold conditionFault? at sound ⊢
  cases found : scope.typeOf? condition.column with
  | none => simp [found] at sound
  | some type =>
    rw [kept condition.column type found]
    simpa [found] using sound

theorem ClausesIn.mono (query : Query) (scope wider : Scope) (clauses : query.ClausesIn scope)
    (kept : ∀ column type, scope.typeOf? column = some type →
      wider.typeOf? column = some type) : query.ClausesIn wider := by
  have known := scope.known_kept wider kept
  refine ⟨fun column member => known _ (clauses.selected column member), ?_,
    fun order given => known _ (clauses.ordered order given)⟩
  intro condition member
  exact conditionFault?_kept scope wider kept condition (clauses.restricted condition member)

theorem known_iff (registry : Registry) (names : List String) (scope : Scope)
    (represents : scope.Represents (names.filterMap registry.table?)) (column : String)
    (type : ColumnType) : scope.typeOf? column = some type ↔
      ∃ name ∈ names, registry.typeIn? name column = some type := by
  rw [represents column type]
  simp only [List.mem_filterMap, Registry.typeIn?, Option.bind_eq_some_iff]
  constructor
  · rintro ⟨table, ⟨name, member, found⟩, owned⟩
    exact ⟨name, member, table, found, owned⟩
  · rintro ⟨name, member, table, found, owned⟩
    exact ⟨table, ⟨name, member, found⟩, owned⟩

theorem owns_of_known (registry : Registry) (names : List String) (scope : Scope)
    (represents : scope.Represents (names.filterMap registry.table?)) (column : String)
    (known : (scope.typeOf? column).isSome) : registry.Owns names column := by
  obtain ⟨type, found⟩ := Option.isSome_iff_exists.mp known
  obtain ⟨name, member, owned⟩ := (known_iff registry names scope represents column type).mp found
  exact ⟨name, member, Option.isSome_iff_exists.mpr ⟨type, owned⟩⟩

theorem admits_of_conformsTo (registry : Registry) (names : List String) (scope : Scope)
    (represents : scope.Represents (names.filterMap registry.table?)) (column : String)
    (type : ColumnType) (known : scope.typeOf? column = some type) (value : Value)
    (conforms : value.conformsTo type = true) : registry.Admits names column value := by
  refine ⟨value.notNull_of_conformsTo type conforms, ?_, ?_⟩
  · rintro x rfl
    exact Value.finite_of_conformsTo x type conforms
  · intro name member declared owned
    have same := (known_iff registry names scope represents column declared).mpr
      ⟨name, member, owned⟩
    rw [known, Option.some.injEq] at same
    exact same ▸ conforms

theorem root_consistent (registry : Registry) : (root registry).Consistent registry where
  sameRegistry := rfl
  registered := by simp [tableNames, root]
  represents := Scope.represents_empty
  joinRight := by simp [root]
  joinLeft := by simp [root]
  clauses := ⟨by simp [root, Selection.selectColumns], by simp [root], by simp [root]⟩
  distinct := by simp [root]

theorem fromTable_consistent (registry : Registry) (query next : Query) (table : String)
    (consistent : query.Consistent registry) (applied : query.fromTable table = .ok next) :
    next.Consistent registry := by
  obtain ⟨found, registered, rfl⟩ := (fromTable_ok query next table).mp applied
  rw [consistent.sameRegistry] at registered
  refine ⟨consistent.sameRegistry, ?_, ?_, ?_, ?_, ⟨?_, ?_, ?_⟩, ?_⟩
  · intro name member
    rw [List.mem_singleton.mp member]
    simp [Registry.contains, registered]
  · change (Scope.ofTable found).Represents ([table].filterMap registry.table?)
    simpa [registered] using Scope.represents_ofTable found
  all_goals simp [root, withOptions, Selection.selectColumns]

theorem clauses_consistent (registry : Registry) (query next : Query)
    (consistent : query.Consistent registry) (sameRegistry : next.registry = query.registry)
    (sameTable : next.table = query.table) (sameScope : next.scope = query.scope)
    (sameJoins : next.joins = query.joins) (clauses : next.ClausesIn query.scope)
    (distinct : (next.conditions.map (·.column)).Nodup) : next.Consistent registry := by
  have sameNames : next.tableNames = query.tableNames := by
    rw [tableNames, tableNames, sameTable, sameJoins]
  refine ⟨sameRegistry.trans consistent.sameRegistry, ?_, ?_, ?_, ?_, sameScope ▸ clauses,
    distinct⟩
  · rw [sameNames]
    exact consistent.registered
  · rw [sameNames, sameScope]
    exact consistent.represents
  · rw [sameJoins]
    exact consistent.joinRight
  · rw [sameJoins, sameTable]
    exact consistent.joinLeft

theorem select_consistent (registry : Registry) (query next : Query) (columns : List String)
    (consistent : query.Consistent registry) (applied : query.select columns = .ok next) :
    next.Consistent registry := by
  obtain ⟨known, rfl⟩ := (select_ok query next columns).mp applied
  refine clauses_consistent registry query _ consistent rfl rfl rfl rfl ⟨?_,
    consistent.clauses.restricted, consistent.clauses.ordered⟩ consistent.distinct
  intro column member
  cases columns with
  | nil => simp [Selection.ofColumns, Selection.selectColumns] at member
  | cons first rest =>
    obtain ⟨name, inside, rfl⟩ := List.mem_map.mp member
    exact known name inside

theorem selectAs_consistent (registry : Registry) (query next : Query)
    (pairs : List (String × String)) (consistent : query.Consistent registry)
    (applied : query.selectAs pairs = .ok next) : next.Consistent registry := by
  obtain ⟨passed, rfl⟩ := (selectAs_ok query next pairs).mp applied
  have known := ((labelFault?_none query.scope [] pairs).mp passed).1
  refine clauses_consistent registry query _ consistent rfl rfl rfl rfl ⟨?_,
    consistent.clauses.restricted, consistent.clauses.ordered⟩ consistent.distinct
  intro column member
  cases pairs with
  | nil => simp [Selection.ofPairs, Selection.selectColumns] at member
  | cons first rest =>
    obtain ⟨pair, inside, rfl⟩ := List.mem_map.mp member
    exact (known pair inside).1

theorem filter_consistent (registry : Registry) (query next : Query)
    (conditions : List Condition) (consistent : query.Consistent registry)
    (applied : query.filter conditions = .ok next) : next.Consistent registry := by
  obtain ⟨passed, rfl⟩ := (filter_ok query next conditions).mp applied
  refine clauses_consistent registry query _ consistent rfl rfl rfl rfl
    ⟨consistent.clauses.selected, ?_, consistent.clauses.ordered⟩
    (nodup_keys_lastOfEach Condition.column conditions)
  intro condition member
  exact passed condition (mem_of_mem_lastOfEach Condition.column conditions condition member)

theorem order_consistent (registry : Registry) (query next : Query) (order : OrderBy)
    (consistent : query.Consistent registry) (applied : query.order order = .ok next) :
    next.Consistent registry := by
  obtain ⟨known, rfl⟩ := (order_ok query next order).mp applied
  refine clauses_consistent registry query _ consistent rfl rfl rfl rfl
    ⟨consistent.clauses.selected, consistent.clauses.restricted, ?_⟩ consistent.distinct
  intro other given
  rw [← Option.some.inj given]
  exact known

private theorem concat_eq_split (joins earlier later : List JoinClause) (last join : JoinClause)
    (split : joins ++ [last] = earlier ++ join :: later) :
    (earlier = joins ∧ join = last) ∨ ∃ others, joins = earlier ++ join :: others := by
  rcases List.eq_nil_or_concat later with rfl | ⟨others, final, rfl⟩
  · obtain ⟨same, tail⟩ := List.append_inj' split rfl
    exact .inl ⟨same.symm, (List.cons.inj tail).1.symm⟩
  · rw [List.concat_eq_append, ← List.cons_append, ← List.append_assoc] at split
    exact .inr ⟨others, (List.append_inj' split rfl).1⟩

/-- A join widens the scope by its table; what was named before keeps its type. -/
theorem join_consistent (registry : Registry) (query next : Query) (table left right : String)
    (consistent : query.Consistent registry)
    (applied : query.join table left right = .ok next) : next.Consistent registry := by
  obtain ⟨joined, found, leftKnown, rightKnown, free, rfl⟩ :=
    (join_ok query next table left right).mp applied
  rw [consistent.sameRegistry] at found
  have rightOwned : registry.Owns [table] right :=
    ⟨table, List.mem_singleton_self table, by simpa [Registry.typeIn?, found] using rightKnown⟩
  have leftOwned := owns_of_known registry query.tableNames query.scope consistent.represents
    left leftKnown
  have names : ({ query with
      scope := query.scope.widened joined
      joins := query.joins ++ [⟨table, left, right⟩] } : Query).tableNames =
      query.tableNames ++ [table] := by
    simp [tableNames]
  refine ⟨consistent.sameRegistry, ?_, ?_, ?_, ?_, ?_, consistent.distinct⟩
  · rw [names]
    intro name member
    rcases List.mem_append.mp member with before | last
    · exact consistent.registered name before
    · rw [List.mem_singleton.mp last]
      simp [Registry.contains, found]
  · rw [names, List.filterMap_append]
    simpa [found] using
      Scope.represents_widened query.scope _ joined consistent.represents free
  · intro join member
    rcases List.mem_append.mp member with before | last
    · exact consistent.joinRight join before
    · rw [List.mem_singleton.mp last]
      exact rightOwned
  · intro earlier join later split
    rcases concat_eq_split query.joins earlier later _ join split with ⟨rfl, rfl⟩ | ⟨others, before⟩
    · exact leftOwned
    · exact consistent.joinLeft earlier join others before
  · obtain ⟨selected, restricted, ordered⟩ := ClausesIn.mono query query.scope
      (query.scope.widened joined) consistent.clauses
      fun column type => query.scope.typeOf?_widened_of_some joined column type
    exact ⟨selected, restricted, ordered⟩

theorem apply_consistent (registry : Registry) (query : Query) (step : Step) (next : Query)
    (consistent : query.Consistent registry) (applied : query.apply step = .ok next) :
    next.Consistent registry := by
  cases step with
  | fromTable table => exact fromTable_consistent registry query next table consistent applied
  | select columns => exact select_consistent registry query next columns consistent applied
  | selectAs pairs => exact selectAs_consistent registry query next pairs consistent applied
  | filter conditions =>
    exact filter_consistent registry query next conditions consistent applied
  | join table left right =>
    exact join_consistent registry query next table left right consistent applied
  | order order => exact order_consistent registry query next order consistent applied
  | withOptions _ | limit _ | offset _ =>
    obtain rfl := (ok_success _ next).mp applied
    exact clauses_consistent registry query _ consistent rfl rfl rfl rfl
      ⟨consistent.clauses.1, consistent.clauses.2, consistent.clauses.3⟩ consistent.distinct

theorem run_consistent (registry : Registry) (steps : List Step) (query : Query)
    (reached : (root registry).run steps = .ok query) : query.Consistent registry :=
  run_invariant (Consistent registry) (apply_consistent registry) steps (root registry) query
    (root_consistent registry) reached

theorem restriction_sound (registry : Registry) (query : Query)
    (consistent : query.Consistent registry) (condition : Condition)
    (member : condition ∈ query.conditions) :
    registry.Owns query.tableNames condition.column ∧
      (∀ set, condition.restriction = .operators set → Operator.WellFormedList set.toList) ∧
      ∀ value ∈ condition.restriction.operands,
        registry.Admits query.tableNames condition.column value := by
  have passed := consistent.clauses.restricted condition member
  unfold conditionFault? at passed
  cases known : query.scope.typeOf? condition.column with
  | none => simp [known] at passed
  | some type =>
    have sound : condition.restriction.fault? type = none := by simpa [known] using passed
    refine ⟨?_, ?_, ?_⟩
    · exact owns_of_known registry query.tableNames query.scope consistent.represents _
        (by rw [known]; rfl)
    · intro set given
      rw [given] at sound
      exact set.wellFormed_of_fault?_none type sound
    · intro value inside
      exact admits_of_conformsTo registry query.tableNames query.scope consistent.represents _
        type known value (condition.restriction.conforms_of_fault?_none type sound value inside)

/-- Whatever steps lead to a query, the statement that it stands for is well typed. -/
theorem reachable_wellTyped (registry : Registry) (steps : List Step) (query : Query)
    (statement : Statement) (reached : (root registry).run steps = .ok query)
    (finished : query.toStatement = .ok statement) : statement.WellTyped registry := by
  have consistent := run_consistent registry steps query reached
  obtain ⟨table, based, _, rfl⟩ := (toStatement_ok query statement).mp finished
  have names : query.tableNames = table :: query.joins.map (·.table) := by
    rw [tableNames, based]
    rfl
  have registered := consistent.registered
  have owned := owns_of_known registry query.tableNames query.scope consistent.represents
  have sound := restriction_sound registry query consistent
  rw [names] at registered owned sound
  refine ⟨registered, consistent.joinRight, ?_, ?_, ?_, ?_, consistent.distinct, ?_, ?_, ?_⟩
  · intro earlier join later split
    simpa [based] using consistent.joinLeft earlier join later split
  · exact fun column member => owned _ (consistent.clauses.selected column member)
  · exact fun condition member => (sound condition member).1
  · exact fun order given => owned _ (consistent.clauses.ordered order given)
  · exact fun condition member => (sound condition member).2.1
  · exact fun condition member => (sound condition member).2.2
  · intro value member
    rw [Statement.parameters_eq] at member
    obtain ⟨condition, inside, given⟩ := List.mem_flatMap.mp member
    exact ⟨condition, inside, given, (sound condition inside).2.2 value given⟩

def sampleSteps : List Step :=
  [.withOptions ⟨true⟩, .fromTable "users", .filter [⟨"email", .literal (.text "a")⟩],
    .join "posts" "id" "userId", .selectAs [("who", "email"), ("what", "title")],
    .filter [⟨"id", .literal (.int 1)⟩, ⟨"title", .literal (.text "it's")⟩,
      ⟨"id", .operators ((OperatorSet.empty.add (.oneOf [.int 2, .int 3])).add
        (.compare .greater (.int 1)))⟩],
    .order ⟨"userId", .descending⟩, .limit 5]

theorem sample_wellTyped : ∃ query statement,
    (root sampleRegistry).run sampleSteps = .ok query ∧ query.toStatement = .ok statement ∧
      statement.tableNames = ["users", "posts"] ∧
      statement.conditions.map (·.column) = ["id", "title"] ∧
      statement.WellTyped sampleRegistry := by
  obtain ⟨query, statement, reached, finished, tables, columns⟩ : ∃ query statement,
      (root sampleRegistry).run sampleSteps = .ok query ∧ query.toStatement = .ok statement ∧
        statement.tableNames = ["users", "posts"] ∧
        statement.conditions.map (·.column) = ["id", "title"] := ⟨_, _, rfl, rfl, rfl, rfl⟩
  exact ⟨query, statement, reached, finished, tables, columns,
    reachable_wellTyped sampleRegistry sampleSteps query statement reached finished⟩

end Query

end TypedSelect
