import TypedSelect.Proofs.FirstFailing
import TypedSelect.Proofs.Run

/-! What comes of replacing the conditions of a query. All of them are checked, also those that a
later one on the same column replaces; the first that is refused decides the error. If none is, the
query has for each column the last condition on it, where the column first occurs. -/
namespace TypedSelect

theorem Restriction.check_ok (column : String) (type : ColumnType) (restriction : Restriction) :
    restriction.check column type = .ok () ↔ restriction.fault? type = none := by
  unfold check
  cases restriction.fault? type <;> simp

theorem Restriction.check_failure (column : String) (type : ColumnType) (restriction : Restriction)
    (error : QueryError) : restriction.check column type = .error error ↔
      (restriction.fault? type).map (.ofFault column type) = some error := by
  unfold check
  cases restriction.fault? type <;> simp

namespace Condition

/-- The column is in scope, and what the condition asks is valid for the column's type. -/
def Admitted (scope : Scope) (condition : Condition) : Prop :=
  ∃ type, scope.typeOf? condition.column = some type ∧
    condition.restriction.check condition.column type = .ok ()

inductive Refused (scope : Scope) (condition : Condition) : QueryError → Prop where
  | unknown (absent : scope.typeOf? condition.column = none) :
    Refused scope condition (.schema (.unknownColumn condition.column (contextText scope.tables)))
  | invalid (type : ColumnType) (error : QueryError)
    (known : scope.typeOf? condition.column = some type)
    (failed : condition.restriction.check condition.column type = .error error) :
    Refused scope condition error

end Condition

namespace Query

theorem conditionFault?_none (scope : Scope) (condition : Condition) :
    conditionFault? scope condition = none ↔ condition.Admitted scope := by
  unfold conditionFault? Condition.Admitted
  simp only [Restriction.check_ok]
  cases scope.typeOf? condition.column <;> simp

theorem conditionFault?_some (scope : Scope) (condition : Condition) (error : QueryError) :
    conditionFault? scope condition = some error ↔ condition.Refused scope error := by
  unfold conditionFault?
  constructor
  · intro fault
    split at fault
    · rename_i type known
      exact .invalid type error known ((Restriction.check_failure _ _ _ _).mpr fault)
    · rename_i absent
      rw [← Option.some.inj fault, scope.unknownColumn_eq]
      exact .unknown absent
  · intro refused
    cases refused with
    | unknown absent => simp [absent, scope.unknownColumn_eq]
    | invalid type _ known failed =>
      rw [known]
      exact (Restriction.check_failure _ _ _ _).mp failed

/-- Conditions are taken if each one of the list is admitted, and otherwise the first one that is
not is reported. Those that are taken replace all conditions before and leave the rest of the query
as it was. -/
theorem filter_decided (query : Query) (conditions : List Condition) :
    ((∃ next, query.filter conditions = .ok next) ↔
      ∀ condition ∈ conditions, condition.Admitted query.scope) ∧
    (∀ next, query.filter conditions = .ok next →
      next = { query with conditions := lastOfEach Condition.column conditions } ∧
      next.conditions.map (·.column) = (conditions.map (·.column)).eraseDups ∧
      KeepsLast Condition.column conditions next.conditions) ∧
    ∀ error, query.filter conditions = .error error ↔
      ∃ condition, FirstFailing (·.Admitted query.scope) conditions condition ∧
        condition.Refused query.scope error := by
  refine ⟨?_, fun next taken => ?_, fun error => ?_⟩
  · simp only [filter_ok, conditionFault?_none, exists_and_left, exists_eq, and_true]
  · obtain ⟨_, rfl⟩ := (filter_ok query next conditions).mp taken
    exact ⟨rfl, keys_lastOfEach Condition.column conditions,
      keepsLast_lastOfEach Condition.column conditions⟩
  · simp only [filter_failure, ← conditionFault?_some]
    exact findSome?_firstFailing _ _ (conditionFault?_none query.scope) conditions error

def repeatedConditions : List Condition :=
  [⟨"id", .literal (.int 1)⟩, ⟨"email", .literal (.text "a")⟩, ⟨"id", .literal (.int 2)⟩]

def replacedConditions : List Condition :=
  [⟨"email", .literal (.text "a")⟩, ⟨"id", .literal (.text "b")⟩, ⟨"id", .literal (.int 2)⟩,
    ⟨"name", .literal .null⟩]

theorem repeated_decided : ∃ query next, (root sampleRegistry).run [.fromTable "users"] = .ok query ∧
    query.filter repeatedConditions = .ok next ∧
    next.conditions = lastOfEach Condition.column repeatedConditions ∧
    next.conditions = [⟨"id", .literal (.int 2)⟩, ⟨"email", .literal (.text "a")⟩] ∧
    ∃ condition, FirstFailing (·.Admitted query.scope) replacedConditions condition ∧
      condition.Refused query.scope (.typeMismatch "id" .number "'b'") := by
  obtain ⟨query, next, reached, taken, result, failed⟩ : ∃ query next,
      (root sampleRegistry).run [.fromTable "users"] = .ok query ∧
        query.filter repeatedConditions = .ok next ∧
        next.conditions = [⟨"id", .literal (.int 2)⟩, ⟨"email", .literal (.text "a")⟩] ∧
        query.filter replacedConditions = .error (.typeMismatch "id" .number "'b'") :=
    ⟨_, _, rfl, rfl, rfl, rfl⟩
  have same := ((filter_decided query repeatedConditions).2.1 next taken).1
  exact ⟨query, next, reached, taken, congrArg Query.conditions same, result,
    ((filter_decided query replacedConditions).2.2 _).mp failed⟩

end Query

end TypedSelect
