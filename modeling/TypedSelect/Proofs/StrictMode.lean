import Mathlib.Data.List.Induction
import TypedSelect.Proofs.Attempts
import TypedSelect.Proofs.OutputShape
import TypedSelect.Proofs.Projection

/-! Which queries have a statement. It can be read off the steps that succeeded: a base table must
have been chosen and, while the options ask for columns, a selection that is not empty made since.
No statement without columns gets past such options. -/
namespace TypedSelect

namespace Selection

theorem ofColumns_eq_all (columns : List String) : ofColumns columns = .all ↔ columns = [] := by
  cases columns <;> simp [ofColumns]

theorem ofPairs_eq_all (pairs : List (String × String)) : ofPairs pairs = .all ↔ pairs = [] := by
  cases pairs <;> simp [ofPairs]

end Selection

namespace Step

/-- How many columns a step selects, under whichever names. -/
def selectedCount? : Step → Option Nat
  | .select columns => some columns.length
  | .selectAs pairs => some pairs.length
  | _ => none

/-- The options that were set last ask for columns. -/
def RequiresColumns (steps : List Step) : Prop :=
  ∃ options, last? options? steps = some options ∧ options.requireColumns = true

/-- Since the last choice of a base table no selection was made, or the last one that was made is
empty. -/
def SelectsNothing (steps : List Step) : Prop :=
  ∀ count, last? selectedCount? (sinceTable steps) = some count → count = 0

theorem selection?_eq_all (step : Step) :
    step.selection? = some .all ↔ step.selectedCount? = some 0 := by
  cases step <;>
    simp [selection?, selectedCount?, Selection.ofColumns_eq_all, Selection.ofPairs_eq_all]

theorem selection?_isNone (step : Step) :
    step.selection? = none ↔ step.selectedCount? = none := by
  cases step <;> simp [selection?, selectedCount?]

theorem last?_selection_eq_all (steps : List Step) :
    (last? selection? steps).getD .all = .all ↔
      ∀ count, last? selectedCount? steps = some count → count = 0 := by
  induction steps using List.reverseRecOn with
  | nil => simp [last?]
  | append_singleton steps step ih =>
    rw [last?_concat, last?_concat]
    cases counted : step.selectedCount? with
    | none => simpa [(selection?_isNone step).mpr counted] using ih
    | some count =>
      cases selected : step.selection? with
      | none => simp [(selection?_isNone step).mp selected] at counted
      | some selection =>
        have all := selection?_eq_all step
        simpa [counted, selected] using all

theorem last?_table_eq_none (steps : List Step) :
    last? table? steps = none ↔ ∀ table, Step.fromTable table ∉ steps := by
  rw [last?, List.getLast?_eq_none_iff, List.filterMap_eq_nil_iff]
  constructor
  · intro without table member
    exact absurd (without _ member) (by simp [table?])
  · intro without step member
    cases step with
    | fromTable table => exact absurd member (without table)
    | _ => rfl

end Step

/-- How a list of steps decides whether the query after them has a statement. -/
structure Query.DecidedBy (taken : List Step) (query : Query) : Prop where
  missingTable : query.toStatement = .error .missingTable ↔ ∀ table, Step.fromTable table ∉ taken
  missingColumns : ∀ table, query.toStatement = .error (.missingColumns table) ↔
    Step.last? Step.table? taken = some table ∧ Step.RequiresColumns taken ∧
      Step.SelectsNothing taken
  finished : (∃ statement, query.toStatement = .ok statement) ↔
    (∃ table, Step.fromTable table ∈ taken) ∧
      ¬ (Step.RequiresColumns taken ∧ Step.SelectsNothing taken)
  explicit : ∀ statement, query.toStatement = .ok statement → Step.RequiresColumns taken →
    statement.columns ≠ []
  sqlFailure : ∀ error, query.sql = .error error ↔ query.toStatement = .error error
  parameterizedFailure : ∀ error,
    query.parameterized = .error error ↔ query.toStatement = .error error

namespace Query

theorem toStatement_missingTable (query : Query) :
    query.toStatement = .error .missingTable ↔ query.table = none := by
  unfold toStatement
  cases query.table with
  | none => simp
  | some table =>
    dsimp only
    split <;> simp

theorem toStatement_missingColumns (query : Query) (table : String) :
    query.toStatement = .error (.missingColumns table) ↔
      query.table = some table ∧ query.options.requireColumns = true ∧ query.selection = .all := by
  unfold toStatement
  cases query.table with
  | none => simp
  | some based =>
    dsimp only
    split <;> simp_all

theorem toStatement_finished (query : Query) :
    (∃ statement, query.toStatement = .ok statement) ↔ query.table ≠ none ∧
      ¬ (query.options.requireColumns = true ∧ query.selection = .all) := by
  unfold toStatement
  cases query.table with
  | none => simp
  | some table =>
    dsimp only
    split <;> simp_all

theorem requiresColumns_described (registry : Registry) (taken : List Step) :
    (described registry taken).options.requireColumns = true ↔ Step.RequiresColumns taken := by
  unfold described Step.RequiresColumns
  cases Step.last? Step.options? taken with
  | none => simp [QueryOptions.default]
  | some options => simp

theorem selection_described (registry : Registry) (taken : List Step) :
    (described registry taken).selection = .all ↔ Step.SelectsNothing taken :=
  Step.last?_selection_eq_all (Step.sinceTable taken)

theorem columns_of_explicit (selection : Selection) (proper : selection.Proper)
    (explicit : selection ≠ .all) : selection.selectColumns ≠ [] := by
  cases selection with
  | all => exact absurd rfl explicit
  | columns names => exact List.map_eq_nil_iff.not.mpr proper
  | labelled pairs => exact List.map_eq_nil_iff.not.mpr proper.1

theorem decidedBy_of_run (registry : Registry) (taken : List Step) (query : Query)
    (reached : (root registry).run taken = .ok query) : query.DecidedBy taken := by
  have proper := run_proper registry taken query reached
  obtain rfl := run_described registry [] taken query reached
  rw [List.nil_append] at proper ⊢
  have chosen := Step.last?_table_eq_none taken
  have required := requiresColumns_described registry taken
  have unselected := selection_described registry taken
  refine ⟨?_, ?_, ?_, ?_, fun error => map_failure _ _ error, fun error => map_failure _ _ error⟩
  · rw [toStatement_missingTable]
    exact chosen
  · intro table
    rw [toStatement_missingColumns, required, unselected]
    rfl
  · have based : (described registry taken).table ≠ none ↔
        ∃ table, Step.fromTable table ∈ taken :=
      (not_congr chosen).trans not_forall_not
    rw [toStatement_finished, based, required, unselected]
  · intro statement made strict
    obtain ⟨_, _, accepted, rfl⟩ := (toStatement_ok _ statement).mp made
    apply columns_of_explicit _ proper
    intro all
    exact accepted ⟨required.mpr strict, all⟩

/-- Whatever was attempted, the steps that succeeded decide whether a query has a statement. -/
theorem statement_decided (registry : Registry) (steps : List Step) :
    ((root registry).attempts steps).DecidedBy ((root registry).succeeded steps) :=
  decidedBy_of_run registry _ _ (run_succeeded (root registry) steps)

/-- The selection is emptied again, and the failed one after it does not help. -/
example : ((root sampleRegistry).attempts
    [.withOptions ⟨true⟩, .fromTable "users", .select ["id"], .selectAs [],
      .select ["nothing"]]).toStatement = .error (.missingColumns "users") := rfl

end Query

end TypedSelect
