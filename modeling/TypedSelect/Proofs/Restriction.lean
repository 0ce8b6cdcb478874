import Mathlib.Data.List.Nodup
import TypedSelect.Proofs.LastOfEach
import TypedSelect.Query.Basic

/-! What a list of conditions holds once its faults are excluded: a restriction without a fault
compares with values of the column's type only, and of the conditions on one column the last one
remains. -/
namespace TypedSelect

theorem Value.fault?_none (type : ColumnType) (value : Value) :
    value.fault? type = none ↔ value.conformsTo type = true := by
  unfold Value.fault?
  cases value.conformsTo type <;> simp

theorem Value.notNull_of_conformsTo (value : Value) (type : ColumnType)
    (conforms : value.conformsTo type = true) : value.isNull = false := by
  cases value with
  | null => simp [conformsTo, columnType?] at conforms
  | _ => rfl

theorem Value.finite_of_conformsTo (x : Number.Binary64) (type : ColumnType)
    (conforms : (Value.float x).conformsTo type = true) : x.isFinite = true := by
  simp only [conformsTo, Bool.and_eq_true] at conforms
  exact conforms.1

theorem Operator.fault?_none (type : ColumnType) (operator : Operator) :
    operator.fault? type = none ↔
      operator.operands ≠ [] ∧ ∀ value ∈ operator.operands, value.conformsTo type = true := by
  unfold Operator.fault?
  cases given : operator.operands with
  | nil => simp
  | cons value rest =>
    simp only [List.isEmpty_cons, Bool.false_eq_true, if_false, List.findSome?_eq_none_iff,
      Value.fault?_none, ne_eq, reduceCtorEq, not_false_eq_true, true_and]

namespace OperatorSet

theorem fault?_none (type : ColumnType) (set : OperatorSet) :
    set.fault? type = none ↔
      set.toList ≠ [] ∧ ∀ operator ∈ set.toList, operator.fault? type = none := by
  unfold fault?
  cases given : set.toList with
  | nil => simp
  | cons operator rest =>
    simp only [List.isEmpty_cons, Bool.false_eq_true, if_false, List.findSome?_eq_none_iff,
      ne_eq, reduceCtorEq, not_false_eq_true, true_and]

end OperatorSet

/-- A restriction without a fault compares with values of the type only. -/
theorem Restriction.conforms_of_fault?_none (restriction : Restriction) (type : ColumnType)
    (sound : restriction.fault? type = none) :
    ∀ value ∈ restriction.operands, value.conformsTo type = true := by
  intro value member
  cases restriction with
  | literal literal =>
    rw [List.mem_singleton.mp member]
    exact (Value.fault?_none type literal).mp sound
  | operators set =>
    obtain ⟨operator, inside, given⟩ := List.mem_flatMap.mp member
    have passed := ((OperatorSet.fault?_none type set).mp sound).2 operator inside
    exact ((Operator.fault?_none type operator).mp passed).2 value given

namespace Condition

private theorem columns_put (condition : Condition) (kept : List Condition) :
    (condition.put kept).map (·.column) =
      if condition.column ∈ kept.map (·.column) then kept.map (·.column)
      else kept.map (·.column) ++ [condition.column] := by
  induction kept with
  | nil => rfl
  | cons other rest ih =>
    unfold put
    by_cases same : other.column = condition.column
    · simp [same]
    · rw [if_neg same, List.map_cons, ih]
      by_cases member : condition.column ∈ rest.map (·.column)
      · simp [member]
      · simp [member, Ne.symm same]

theorem mem_put (condition other : Condition) (kept : List Condition)
    (distinct : (kept.map (·.column)).Nodup) :
    other ∈ condition.put kept ↔
      if condition.column = other.column then other = condition else other ∈ kept := by
  induction kept with
  | nil => grind [put]
  | cons first rest ih =>
    rw [List.map_cons, List.nodup_cons] at distinct
    have fresh (member : other ∈ rest) : other.column ≠ first.column := by
      intro same
      exact distinct.1 (same ▸ List.mem_map_of_mem member)
    have tail := ih distinct.2
    unfold put
    split <;> grind

/-- Conditions put one after the other leave the last one on each column. -/
theorem foldl_put (conditions : List Condition) :
    conditions.foldl (fun kept condition => condition.put kept) [] =
      lastOfEach Condition.column conditions := by
  induction conditions using List.reverseRecOn with
  | nil => rfl
  | append_singleton conditions condition ih =>
    rw [List.foldl_append, ih]
    refine eq_lastOfEach Condition.column _ _ ?_ ?_
    · exact (keepsLast_lastOfEach Condition.column conditions).concat Condition.column conditions
        _ _ condition fun other =>
          mem_put condition other _ (nodup_keys_lastOfEach Condition.column conditions)
    · change (condition.put _).map (·.column) = _
      rw [columns_put, keys_lastOfEach, List.map_append, List.map_singleton, ← firstOfEach_id,
        ← firstOfEach_id, firstOfEach_concat, firstOfEach_id, List.map_id, id]
      simp only [List.mem_eraseDups]

end Condition

end TypedSelect
