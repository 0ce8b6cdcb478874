import Mathlib.Data.List.Nodup
import TypedSelect.Proofs.ScopeColumns
import TypedSelect.Result.Shape

/-! The shape of a query's result agrees with its statement. Both are made from the selection, each
in its own way; that no selected column is lost rests on what holds of every query that is built by
steps: selected columns stay in scope, and labels are distinct. -/
namespace TypedSelect

private theorem filterMap_of_some {α β : Type} (read : α → Option β) (made : α → β)
    (items : List α) (each : ∀ item ∈ items, read item = some (made item)) :
    items.filterMap read = items.map made := by
  induction items with
  | nil => rfl
  | cons item rest ih =>
    obtain ⟨head, tail⟩ := List.forall_mem_cons.mp each
    rw [List.filterMap_cons_some head, List.map_cons, ih tail]

namespace Selection

/-- A selection as steps leave it: a list is not empty, and its labels are distinct. -/
def Proper : Selection → Prop
  | .all => True
  | .columns names => names ≠ []
  | .labelled pairs => pairs ≠ [] ∧ (pairs.map Prod.fst).Nodup

theorem proper_ofColumns (columns : List String) : (ofColumns columns).Proper := by
  cases columns with
  | nil => trivial
  | cons first rest => exact List.cons_ne_nil first rest

theorem proper_ofPairs (pairs : List (String × String)) (distinct : (pairs.map Prod.fst).Nodup) :
    (ofPairs pairs).Proper := by
  cases pairs with
  | nil => trivial
  | cons first rest => exact ⟨List.cons_ne_nil first rest, distinct⟩

theorem column_of_outputName (selection : Selection) (proper : selection.Proper)
    (first second : SelectColumn) (member : first ∈ selection.selectColumns)
    (member' : second ∈ selection.selectColumns)
    (same : first.outputName = second.outputName) : first.column = second.column := by
  cases selection with
  | all => cases member
  | columns names =>
    obtain ⟨name, _, rfl⟩ := List.mem_map.mp member
    obtain ⟨name', _, rfl⟩ := List.mem_map.mp member'
    exact same
  | labelled pairs =>
    obtain ⟨pair, inside, rfl⟩ := List.mem_map.mp member
    obtain ⟨pair', inside', rfl⟩ := List.mem_map.mp member'
    have samePair : pair = pair' := List.inj_on_of_nodup_map proper.2 inside inside' same
    rw [samePair]

end Selection

namespace Query

theorem apply_proper (query : Query) (step : Step) (next : Query)
    (proper : query.selection.Proper) (applied : query.apply step = .ok next) :
    next.selection.Proper := by
  cases step with
  | withOptions _ | limit _ | offset _ =>
    obtain rfl := (ok_success _ next).mp applied
    exact proper
  | fromTable table =>
    obtain ⟨found, _, rfl⟩ := (fromTable_ok query next table).mp applied
    trivial
  | select columns =>
    obtain ⟨_, rfl⟩ := (select_ok query next columns).mp applied
    exact Selection.proper_ofColumns columns
  | selectAs pairs =>
    obtain ⟨passed, rfl⟩ := (selectAs_ok query next pairs).mp applied
    have distinct := ((labelFault?_none query.scope [] pairs).mp passed).2
    exact Selection.proper_ofPairs pairs distinct
  | filter conditions =>
    obtain ⟨_, rfl⟩ := (filter_ok query next conditions).mp applied
    exact proper
  | join table left right =>
    obtain ⟨joined, _, _, _, _, rfl⟩ := (join_ok query next table left right).mp applied
    exact proper
  | order clause =>
    obtain ⟨_, rfl⟩ := (order_ok query next clause).mp applied
    exact proper

theorem run_proper (registry : Registry) (steps : List Step) (query : Query)
    (reached : (root registry).run steps = .ok query) : query.selection.Proper :=
  run_invariant (fun query => query.selection.Proper) apply_proper steps (root registry) query
    trivial reached

/-- Steps that neither select nor choose a base table keep the selection. -/
theorem run_selection (steps : List Step) (query last : Query)
    (others : ∀ step ∈ steps, step.kind ≠ .selection ∧ step.kind ≠ .table)
    (ran : query.run steps = .ok last) : last.selection = query.selection := by
  induction steps generalizing query with
  | nil =>
    obtain rfl := (run_nil query last).mp ran
    rfl
  | cons step rest ih =>
    obtain ⟨notSelection, notTable⟩ := others step List.mem_cons_self
    obtain ⟨next, applied, ran⟩ := (run_cons query last step rest).mp ran
    have kept : SameIn .selection query next := by
      refine (apply_frame query next step applied).2 .selection (Ne.symm notSelection) ?_
      cases step <;> first | rfl | exact absurd rfl notTable | exact absurd rfl notSelection
    have after := ih next (fun other member => others other (List.mem_cons_of_mem step member)) ran
    exact after.trans kept.symm

end Query

namespace SelectColumn

/-- The output field of a selected column whose type is known. -/
def field? (columns : List Column) (selected : SelectColumn) : Option OutputField :=
  (columnType? columns selected.column).map (⟨selected.outputName, selected.column, ·⟩)

theorem field?_eq_some (columns : List Column) (selected : SelectColumn) (field : OutputField) :
    selected.field? columns = some field ↔ columnType? columns selected.column = some field.type ∧
      field.name = selected.outputName ∧ field.column = selected.column := by
  unfold field?
  rw [Option.map_eq_some_iff]
  constructor
  · rintro ⟨type, known, rfl⟩
    exact ⟨known, rfl, rfl⟩
  · rintro ⟨known, name, column⟩
    obtain ⟨_, _, _⟩ := field
    subst name column
    exact ⟨_, known, rfl⟩

end SelectColumn

namespace ResultShape

theorem withNewNames_eq (taken : List String) (fields : List OutputField) :
    withNewNames taken fields =
      firstOfEach OutputField.name (fields.filter fun field => decide (field.name ∉ taken)) := by
  induction fields generalizing taken with
  | nil => rfl
  | cons field rest ih =>
    unfold withNewNames
    by_cases used : field.name ∈ taken
    · rw [if_pos used, ih, List.filter_cons_of_neg (by simpa using used)]
    · rw [if_neg used, ih, List.filter_cons_of_pos (by simpa using used), firstOfEach_cons,
        List.filter_filter]
      congr 2
      apply List.filter_congr
      intro other _
      simp

theorem fields_resolve (columns : List Column) (selection : Selection) :
    (resolve columns selection).fields =
      firstOfEach OutputField.name (selectedFields columns selection) := by
  change withNewNames [] _ = _
  rw [withNewNames_eq, List.filter_eq_self.mpr (by simp)]

/-- The columns that come out of a selection, all columns in scope where it has none of its own. -/
def outputColumns (columns : List Column) (selected : List SelectColumn) : List SelectColumn :=
  if selected.isEmpty then columns.map fun column => ⟨column.name, none⟩ else selected

theorem selectedFields_eq (columns : List Column) (selection : Selection)
    (proper : selection.Proper) (distinct : (columns.map (·.name)).Nodup) :
    selectedFields columns selection =
      (outputColumns columns selection.selectColumns).filterMap
        (SelectColumn.field? columns) := by
  unfold outputColumns
  cases selection with
  | all =>
    change columns.map _ = (columns.map _).filterMap _
    rw [List.filterMap_map]
    refine (filterMap_of_some _ _ columns fun column member => ?_).symm
    have known := columnType?_of_mem columns distinct column member
    simp [SelectColumn.field?, known, SelectColumn.outputName]
  | columns names =>
    obtain ⟨first, rest, rfl⟩ := List.exists_cons_of_ne_nil proper
    change _ = (List.map _ _).filterMap _
    rw [List.filterMap_map]
    rfl
  | labelled pairs =>
    obtain ⟨first, rest, rfl⟩ := List.exists_cons_of_ne_nil proper.1
    change _ = (List.map _ _).filterMap _
    rw [List.filterMap_map]
    rfl

section Known

variable (columns : List Column) (selected : List SelectColumn)
  (known : ∀ column ∈ selected, (columnType? columns column.column).isSome)

include known

theorem names_fields : (selected.filterMap (SelectColumn.field? columns)).map (·.name) =
    selected.map (·.outputName) := by
  rw [List.map_filterMap]
  refine filterMap_of_some _ _ selected fun column member => ?_
  obtain ⟨type, found⟩ := Option.isSome_iff_exists.mp (known column member)
  simp [SelectColumn.field?, found]

theorem find?_fields (name : String) :
    (selected.filterMap (SelectColumn.field? columns)).find? (·.name == name) =
      (selected.find? (·.outputName == name)).bind (SelectColumn.field? columns) := by
  induction selected with
  | nil => rfl
  | cons first rest ih =>
    obtain ⟨head, tail⟩ := List.forall_mem_cons.mp known
    obtain ⟨type, found⟩ := Option.isSome_iff_exists.mp head
    have field : first.field? columns = some ⟨first.outputName, first.column, type⟩ := by
      simp [SelectColumn.field?, found]
    rw [List.filterMap_cons_some field]
    by_cases same : first.outputName = name
    · rw [List.find?_cons_of_pos (by simpa using same), List.find?_cons_of_pos (by simpa using same)]
      exact field.symm
    · rw [List.find?_cons_of_neg (by simpa using same), List.find?_cons_of_neg (by simpa using same)]
      exact ih tail

/-- Every field is made from the first of the columns that come out under its name. -/
theorem source_of_field (field : OutputField)
    (member : field ∈ firstOfEach OutputField.name
      (selected.filterMap (SelectColumn.field? columns))) :
    ∃ column, selected.find? (·.outputName == field.name) = some column ∧
      column.field? columns = some field := by
  have found := find?_of_nodup OutputField.name _ (nodup_map_firstOfEach OutputField.name _)
    field member
  rw [find?_firstOfEach OutputField.name] at found
  rw [find?_fields columns selected known field.name] at found
  exact Option.bind_eq_some_iff.mp found

end Known

end ResultShape

namespace Query

/-- The names under which a statement's columns come out; no columns stand for all in scope. -/
def outputNames (query : Query) (statement : Statement) : List String :=
  if statement.columns.isEmpty then query.scope.columns.map (·.name)
  else statement.columns.map (·.outputName)

/-- A shape whose fields are the columns of a statement, one for each name. -/
structure Returns (registry : Registry) (query : Query) (statement : Statement)
    (shape : ResultShape) : Prop where
  names : shape.names = (query.outputNames statement).eraseDups
  distinct : shape.names.Nodup
  complete : ∀ selected ∈ statement.columns, ∃ field ∈ shape.fields,
    field.name = selected.outputName ∧ field.column = selected.column
  first : statement.columns ≠ [] → ∀ field ∈ shape.fields,
    (statement.columns.find? (·.outputName == field.name)).map (·.column) = some field.column
  whole : statement.columns = [] → ∀ field ∈ shape.fields, field.column = field.name
  owned : ∀ field ∈ shape.fields, registry.Owns query.tableNames field.column
  typed : ∀ field ∈ shape.fields, ∀ table ∈ query.tableNames, ∀ type,
    registry.typeIn? table field.column = some type → field.type = type

/-- What the shape of a reachable query rests on. -/
structure Shaped (registry : Registry) (query : Query) : Prop where
  consistent : query.Consistent registry
  proper : query.selection.Proper
  distinct : (query.scope.columns.map (·.name)).Nodup

theorem run_shaped (registry : Registry) (steps : List Step) (query : Query)
    (reached : (root registry).run steps = .ok query) : query.Shaped registry := by
  refine ⟨run_consistent registry steps query reached, run_proper registry steps query reached, ?_⟩
  rw [columns_of_run registry steps query reached]
  exact nodup_map_firstOfEach Column.name _

def resolved (query : Query) : ResultShape :=
  .resolve query.scope.columns query.selection

def outputColumns (query : Query) : List SelectColumn :=
  ResultShape.outputColumns query.scope.columns query.selection.selectColumns

theorem outputColumns_known (registry : Registry) (query : Query)
    (shaped : query.Shaped registry) (column : SelectColumn)
    (member : column ∈ query.outputColumns) :
    (columnType? query.scope.columns column.column).isSome := by
  unfold outputColumns ResultShape.outputColumns at member
  split at member
  · obtain ⟨declared, inside, rfl⟩ := List.mem_map.mp member
    rw [columnType?_of_mem query.scope.columns shaped.distinct declared inside]
    rfl
  · exact shaped.consistent.clauses.selected column member

theorem fields_resolved (registry : Registry) (query : Query) (shaped : query.Shaped registry) :
    query.resolved.fields = firstOfEach OutputField.name
      (query.outputColumns.filterMap (SelectColumn.field? query.scope.columns)) := by
  rw [resolved, ResultShape.fields_resolve,
    ResultShape.selectedFields_eq _ _ shaped.proper shaped.distinct, outputColumns]

theorem names_resolved (registry : Registry) (query : Query) (shaped : query.Shaped registry) :
    query.resolved.names = (query.outputColumns.map (·.outputName)).eraseDups := by
  have known := outputColumns_known registry query shaped
  rw [ResultShape.names, fields_resolved registry query shaped, map_firstOfEach,
    ResultShape.names_fields query.scope.columns query.outputColumns known]

theorem source_resolved (registry : Registry) (query : Query) (shaped : query.Shaped registry)
    (field : OutputField) (member : field ∈ query.resolved.fields) :
    ∃ column, query.outputColumns.find? (·.outputName == field.name) = some column ∧
      column.column = field.column ∧ query.scope.typeOf? field.column = some field.type := by
  have known := outputColumns_known registry query shaped
  rw [fields_resolved registry query shaped] at member
  obtain ⟨column, found, made⟩ :=
    ResultShape.source_of_field query.scope.columns query.outputColumns known field member
  obtain ⟨typed, _, same⟩ := (column.field?_eq_some query.scope.columns field).mp made
  exact ⟨column, found, same.symm, same ▸ typed⟩

theorem outputColumns_of_empty (query : Query) (empty : query.selection.selectColumns = []) :
    query.outputColumns = query.scope.columns.map fun column => ⟨column.name, none⟩ := by
  rw [outputColumns, ResultShape.outputColumns, if_pos (by simpa using empty)]

theorem outputColumns_of_given (query : Query) (given : query.selection.selectColumns ≠ []) :
    query.outputColumns = query.selection.selectColumns := by
  rw [outputColumns, ResultShape.outputColumns, if_neg (by simpa using given)]

theorem outputNames_eq (query : Query) (statement : Statement)
    (selected : statement.columns = query.selection.selectColumns) :
    query.outputNames statement = query.outputColumns.map (·.outputName) := by
  unfold outputNames
  by_cases empty : query.selection.selectColumns = []
  · rw [query.outputColumns_of_empty empty, List.map_map, if_pos (by simpa [selected] using empty)]
    rfl
  · rw [query.outputColumns_of_given empty, if_neg (by simpa [selected] using empty), selected]

theorem selected_in_shape (registry : Registry) (query : Query) (shaped : query.Shaped registry)
    (column : SelectColumn) (member : column ∈ query.selection.selectColumns) :
    ∃ field ∈ query.resolved.fields,
      field.name = column.outputName ∧ field.column = column.column := by
  have outputs := query.outputColumns_of_given (List.ne_nil_of_mem member)
  have present : column.outputName ∈ query.resolved.names := by
    rw [names_resolved registry query shaped, List.mem_eraseDups, outputs]
    exact List.mem_map_of_mem member
  obtain ⟨field, inside, named⟩ := List.mem_map.mp present
  obtain ⟨other, found, same, _⟩ := source_resolved registry query shaped field inside
  have otherName : other.outputName = field.name := by simpa using List.find?_some found
  have otherMember : other ∈ query.selection.selectColumns :=
    outputs ▸ List.mem_of_find?_eq_some found
  have sameColumn := query.selection.column_of_outputName shaped.proper other column otherMember
    member (otherName.trans named)
  exact ⟨field, inside, named, same.symm.trans sameColumn⟩

theorem returns_resolved (registry : Registry) (query : Query) (statement : Statement)
    (shaped : query.Shaped registry)
    (selected : statement.columns = query.selection.selectColumns) :
    query.Returns registry statement query.resolved := by
  have known := known_iff registry query.tableNames query.scope shaped.consistent.represents
  have source := source_resolved registry query shaped
  have names : query.resolved.names = (query.outputNames statement).eraseDups := by
    rw [names_resolved registry query shaped, query.outputNames_eq statement selected]
  refine ⟨names, ?_, ?_, ?_, ?_, ?_, ?_⟩
  · rw [names]
    exact nodup_eraseDups _
  · rw [selected]
    exact selected_in_shape registry query shaped
  · intro given field member
    obtain ⟨column, found, same, _⟩ := source field member
    rw [query.outputColumns_of_given (selected ▸ given), ← selected] at found
    rw [found, ← same]
    rfl
  · intro empty field member
    obtain ⟨column, found, same, _⟩ := source field member
    have outputName : column.outputName = field.name := by simpa using List.find?_some found
    rw [query.outputColumns_of_empty (selected ▸ empty)] at found
    obtain ⟨declared, _, rfl⟩ := List.mem_map.mp (List.mem_of_find?_eq_some found)
    exact same.symm.trans outputName
  · intro field member
    obtain ⟨_, _, _, typed⟩ := source field member
    obtain ⟨table, inside, owned⟩ := (known field.column field.type).mp typed
    exact ⟨table, inside, by rw [owned]; rfl⟩
  · intro field member table inside type owned
    obtain ⟨_, _, _, typed⟩ := source field member
    have declared := (known field.column type).mpr ⟨table, inside, owned⟩
    rw [typed] at declared
    exact Option.some.inj declared

theorem length_labelled (registry : Registry) (query : Query) (shaped : query.Shaped registry)
    (pairs : List (String × String)) (selection : query.selection = .labelled pairs) :
    query.resolved.fields.length = pairs.length := by
  have proper := shaped.proper
  rw [selection] at proper
  have columns : query.selection.selectColumns =
      pairs.map fun pair => ⟨pair.2, some pair.1⟩ := by
    rw [selection]
    rfl
  have given : query.selection.selectColumns ≠ [] := by
    rw [columns]
    exact fun empty => proper.1 (List.map_eq_nil_iff.mp empty)
  have names : query.resolved.names = pairs.map Prod.fst := by
    rw [names_resolved registry query shaped, query.outputColumns_of_given given, columns,
      List.map_map]
    change (pairs.map Prod.fst).eraseDups = _
    rw [← firstOfEach_id, firstOfEach_of_nodup id _ (by simpa using proper.2)]
  have lengths := congrArg List.length names
  simpa [ResultShape.names] using lengths

/-- Whatever steps lead to a query that has a statement, its result has a shape, and the fields of
the shape are the columns of the statement, each name once. -/
theorem reachable_shape (registry : Registry) (steps : List Step) (query : Query)
    (statement : Statement) (reached : (root registry).run steps = .ok query)
    (finished : query.toStatement = .ok statement) :
    ∃ shape, query.resultShape = .ok shape ∧ query.Returns registry statement shape ∧
      ∀ before pairs after, steps = before ++ .selectAs pairs :: after → pairs ≠ [] →
        (∀ step ∈ after, step.kind ≠ .selection ∧ step.kind ≠ .table) →
          shape.fields.length = pairs.length := by
  have shaped := run_shaped registry steps query reached
  obtain ⟨table, based, _, made⟩ := (toStatement_ok query statement).mp finished
  have selected : statement.columns = query.selection.selectColumns := by rw [made]
  refine ⟨query.resolved, ?_, returns_resolved registry query statement shaped selected, ?_⟩
  · unfold resultShape
    rw [based]
    rfl
  · intro before pairs after split given others
    rw [split] at reached
    obtain ⟨middle, _, ran⟩ := (run_append _ query before _).mp reached
    obtain ⟨next, applied, ran⟩ := (run_cons middle query _ after).mp ran
    obtain ⟨_, rfl⟩ := (selectAs_ok middle next pairs).mp applied
    have selection : query.selection = .labelled pairs := by
      rw [run_selection after _ query others ran]
      obtain ⟨first, rest, rfl⟩ := List.exists_cons_of_ne_nil given
      rfl
    exact length_labelled registry query shaped pairs selection

def relabelledSteps : List Step :=
  [.fromTable "users", .select ["email", "id", "email"],
    .selectAs [("id", "email"), ("email", "id"), ("again", "id")], .join "posts" "id" "userId"]

theorem relabelled_shape : ∃ query statement shape,
    (root sampleRegistry).run relabelledSteps = .ok query ∧ query.toStatement = .ok statement ∧
      query.resultShape = .ok shape ∧ query.Returns sampleRegistry statement shape ∧
      shape.names = ["id", "email", "again"] ∧ shape.fields.length = 3 := by
  obtain ⟨query, statement, reached, finished, columns⟩ : ∃ query statement,
      (root sampleRegistry).run relabelledSteps = .ok query ∧
        query.toStatement = .ok statement ∧
        statement.columns.map (·.outputName) = ["id", "email", "again"] := ⟨_, _, rfl, rfl, rfl⟩
  obtain ⟨shape, resolved, returns, labelled⟩ :=
    reachable_shape sampleRegistry relabelledSteps query statement reached finished
  have given : statement.columns.isEmpty = false := by
    cases empty : statement.columns with
    | nil => simp [empty] at columns
    | cons first rest => rfl
  have names : shape.names = ["id", "email", "again"] := by
    rw [returns.names, outputNames, given, if_neg Bool.false_ne_true, columns]
    decide
  have length := labelled [.fromTable "users", .select ["email", "id", "email"]]
    [("id", "email"), ("email", "id"), ("again", "id")] [.join "posts" "id" "userId"] rfl
    (List.cons_ne_nil _ _) (by decide)
  exact ⟨query, statement, shape, reached, finished, resolved, returns, names, length⟩

end Query

end TypedSelect
