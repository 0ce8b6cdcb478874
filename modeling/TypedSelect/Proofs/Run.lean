import TypedSelect.Proofs.Restriction
import TypedSelect.Proofs.Scope
import TypedSelect.Query.Step

/-! When a step of building a query succeeds, what it then changes, and how runs are put
together. A step looks at nothing but the registry and the scope of the query before it. -/
namespace TypedSelect

theorem bind_success {ε α β : Type} (first : Except ε α) (next : α → Except ε β) (result : β) :
    (first >>= next) = .ok result ↔ ∃ value, first = .ok value ∧ next value = .ok result := by
  cases first with
  | error error => simp [bind, Except.bind]
  | ok value => simp [bind, Except.bind]

theorem bind_failure {ε α β : Type} (first : Except ε α) (next : α → Except ε β) (error : ε) :
    (first >>= next) = .error error ↔
      first = .error error ∨ ∃ value, first = .ok value ∧ next value = .error error := by
  cases first with
  | error error => simp [bind, Except.bind]
  | ok value => simp [bind, Except.bind]

theorem ok_success {ε α : Type} (value result : α) :
    (Except.ok value : Except ε α) = .ok result ↔ result = value := by
  rw [Except.ok.injEq, eq_comm]

theorem map_success {ε α β : Type} (first : Except ε α) (next : α → β) (result : β) :
    first.map next = .ok result ↔ ∃ value, first = .ok value ∧ result = next value := by
  cases first with
  | error error => simp [Except.map]
  | ok value => simp [Except.map, eq_comm]

theorem map_failure {ε α β : Type} (first : Except ε α) (next : α → β) (error : ε) :
    first.map next = .error error ↔ first = .error error := by
  cases first <;> simp [Except.map]

/-- A list of columns to select; no columns stand for all. -/
def Selection.ofColumns (columns : List String) : Selection :=
  if columns.isEmpty then .all else .columns columns

@[inherit_doc Selection.ofColumns]
def Selection.ofPairs (pairs : List (String × String)) : Selection :=
  if pairs.isEmpty then .all else .labelled pairs

namespace Query

theorem fromTable_ok (query next : Query) (table : String) :
    query.fromTable table = .ok next ↔ ∃ found, query.registry.table? table = some found ∧
      next = { (root query.registry).withOptions query.options with
        table := some table
        scope := .ofTable found } := by
  unfold fromTable
  cases query.registry.table? table with
  | none => simp
  | some found => simp only [ok_success, Option.some.injEq, exists_eq_left']

theorem select_ok (query next : Query) (columns : List String) :
    query.select columns = .ok next ↔
      (∀ column ∈ columns, (query.scope.typeOf? column).isSome) ∧
        next = { query with selection := .ofColumns columns } := by
  unfold select
  cases unknown : columns.find? fun column => (query.scope.typeOf? column).isNone with
  | some column =>
    have member := List.mem_of_find?_eq_some unknown
    have absent := List.find?_some unknown
    simp only [reduceCtorEq, false_iff, not_and]
    intro known
    exact absurd (known column member) (by simpa using absent)
  | none =>
    have known := List.find?_eq_none.mp unknown
    simp only [Bool.not_eq_true, Option.isNone_eq_false_iff] at known
    simp only [ok_success, Selection.ofColumns, iff_and_self]
    exact fun _ => known

theorem labelFault?_none (scope : Scope) (taken : List String)
    (pairs : List (String × String)) :
    labelFault? scope taken pairs = none ↔
      (∀ pair ∈ pairs, (scope.typeOf? pair.2).isSome ∧ pair.1 ∉ taken) ∧
        (pairs.map Prod.fst).Nodup := by
  induction pairs generalizing taken with
  | nil => simp [labelFault?]
  | cons pair rest ih =>
    obtain ⟨label, column⟩ := pair
    unfold labelFault?
    cases known : scope.typeOf? column with
    | none => simp [known]
    | some type =>
      by_cases used : label ∈ taken
      · simp [used]
      · simp [used, known, ih]
        grind

theorem selectAs_ok (query next : Query) (pairs : List (String × String)) :
    query.selectAs pairs = .ok next ↔ labelFault? query.scope [] pairs = none ∧
      next = { query with selection := .ofPairs pairs } := by
  unfold selectAs
  cases labelFault? query.scope [] pairs with
  | some error => simp
  | none => simp only [ok_success, Selection.ofPairs, true_and]

theorem filter_ok (query next : Query) (conditions : List Condition) :
    query.filter conditions = .ok next ↔
      (∀ condition ∈ conditions, conditionFault? query.scope condition = none) ∧
        next = { query with conditions := lastOfEach Condition.column conditions } := by
  unfold filter
  cases fault : conditions.findSome? (conditionFault? query.scope) with
  | some error =>
    obtain ⟨condition, member, found⟩ := List.exists_of_findSome?_eq_some fault
    simp only [reduceCtorEq, false_iff, not_and]
    intro passed
    simp [passed condition member] at found
  | none =>
    simp only [ok_success, Condition.foldl_put, iff_and_self]
    exact fun _ => List.findSome?_eq_none_iff.mp fault

theorem filter_failure (query : Query) (conditions : List Condition) (error : QueryError) :
    query.filter conditions = .error error ↔
      conditions.findSome? (conditionFault? query.scope) = some error := by
  unfold filter
  cases conditions.findSome? (conditionFault? query.scope) <;> simp

theorem join_ok (query next : Query) (table left right : String) :
    query.join table left right = .ok next ↔
      ∃ joined, query.registry.table? table = some joined ∧
        (query.scope.typeOf? left).isSome ∧ (joined.columnType? right).isSome ∧
        query.scope.conflict? joined = none ∧
        next = { query with
          scope := query.scope.widened joined
          joins := query.joins ++ [⟨table, left, right⟩] } := by
  unfold join
  cases query.registry.table? table with
  | none => simp
  | some joined =>
    simp only [bind_success, Scope.require_ok, Option.some.injEq, exists_eq_left',
      Option.isSome_iff_exists]
    cases owned : joined.columnType? right with
    | none => simp
    | some type =>
      simp only [Option.isNone_some, Bool.false_eq_true, if_false, bind_success,
        Scope.join_ok, ok_success]
      simp only [and_assoc, exists_and_left, exists_eq_left, exists_and_right, Option.some.injEq,
        exists_eq', true_and]

/-- A join fails for its table, its left column, its right column or a column that the table brings,
whichever comes first in this order. -/
theorem join_failure (query : Query) (table left right : String) (error : QueryError) :
    query.join table left right = .error error ↔
      query.registry.table? table = none ∧
        error = .schema (.unknownJoinTable table query.scope.describe) ∨
      ∃ joined, query.registry.table? table = some joined ∧
        (query.scope.typeOf? left = none ∧ error = query.scope.unknownColumn left ∨
          (query.scope.typeOf? left).isSome ∧
            (joined.columnType? right = none ∧ error = .schema (.unknownColumn right table) ∨
              (joined.columnType? right).isSome ∧ query.scope.conflict? joined = some error)) := by
  unfold join
  cases query.registry.table? table with
  | none => simp [eq_comm (a := error)]
  | some joined =>
    simp only [bind_failure, Scope.require_failure, Scope.require_ok, reduceCtorEq, false_and,
      false_or, Option.some.injEq, exists_eq_left', Option.isSome_iff_exists]
    cases owned : joined.columnType? right with
    | none => simp [eq_comm (a := error)]
    | some type => simp [bind_failure, Scope.join_failure]

theorem order_ok (query next : Query) (order : OrderBy) :
    query.order order = .ok next ↔ (query.scope.typeOf? order.column).isSome ∧
      next = { query with orderBy := some order } := by
  unfold Query.order
  simp only [bind_success, Scope.require_ok, Option.isSome_iff_exists, ok_success]
  simp

theorem toStatement_ok (query : Query) (statement : Statement) :
    query.toStatement = .ok statement ↔ ∃ table, query.table = some table ∧
      ¬ (query.options.requireColumns ∧ query.selection = .all) ∧
      statement = {
        table := table
        columns := query.selection.selectColumns
        conditions := query.conditions
        orderBy := query.orderBy
        limit := query.limit
        offset := query.offset
        joins := query.joins } := by
  unfold toStatement
  cases query.table with
  | none => simp
  | some table =>
    dsimp only
    split
    · rename_i refused
      simp [refused]
    · rename_i accepted
      simp only [ok_success, Option.some.injEq, exists_eq_left']
      exact (and_iff_right accepted).symm

theorem run_nil (query last : Query) : query.run [] = .ok last ↔ query = last := by
  change Except.ok query = .ok last ↔ _
  exact Except.ok.injEq query last ▸ Iff.rfl

theorem run_cons (query last : Query) (step : Step) (steps : List Step) :
    query.run (step :: steps) = .ok last ↔
      ∃ next, query.apply step = .ok next ∧ next.run steps = .ok last := by
  unfold run
  rw [List.foldlM_cons, bind_success]

theorem run_singleton (query : Query) (step : Step) : query.run [step] = query.apply step := by
  unfold run
  rw [List.foldlM_cons]
  cases query.apply step <;> rfl

theorem run_append (query last : Query) (steps more : List Step) :
    query.run (steps ++ more) = .ok last ↔
      ∃ next, query.run steps = .ok next ∧ next.run more = .ok last := by
  unfold run
  rw [List.foldlM_append, bind_success]

/-- What every successful step preserves holds at the end of every successful run. -/
theorem run_invariant (invariant : Query → Prop)
    (preserved : ∀ query step next, invariant query → query.apply step = .ok next →
      invariant next)
    (steps : List Step) (query last : Query) (initial : invariant query)
    (ran : query.run steps = .ok last) : invariant last := by
  induction steps generalizing query with
  | nil => exact (run_nil query last).mp ran ▸ initial
  | cons step rest ih =>
    obtain ⟨next, applied, ran⟩ := (run_cons query last step rest).mp ran
    exact ih next (preserved query step next initial applied) ran

def sampleRegistry : Registry where
  tables := [⟨"users", [⟨"id", .number⟩, ⟨"email", .string⟩]⟩,
    ⟨"posts", [⟨"id", .number⟩, ⟨"userId", .number⟩, ⟨"title", .string⟩]⟩]
  distinctTables := by decide
  distinctColumns := by decide

end Query

end TypedSelect
