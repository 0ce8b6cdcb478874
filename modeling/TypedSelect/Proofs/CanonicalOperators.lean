import TypedSelect.Form.Condition
import TypedSelect.Proofs.OperatorInsertion
import TypedSelect.Statement.Sql

/-! The canonical form of operator sets. Whatever the order in which operators are added, the set
lists them in the order of their kinds, of each kind the last, so that only the last operators
matter; adding one more puts it between those of lower and those of higher kinds. -/
namespace TypedSelect.OperatorSet

private def symbols : List String := ["=", "<>", ">", ">=", "<", "<=", "IN"]

private theorem symbol_eq (operator : Operator) :
    operator.symbol = symbols.getD operator.rank "" := by
  cases operator with
  | compare comparison operand => cases comparison <;> rfl
  | oneOf operands => rfl

private theorem sublist_range (ranks : List Nat) (count : Nat) (increasing : ranks.Pairwise (· < ·))
    (bounded : ∀ rank ∈ ranks, rank < count) : ranks.Sublist (List.range count) := by
  have chosen : ranks = (List.range count).filter (· ∈ ranks) := by
    apply eq_of_increasing id
    · rwa [List.map_id]
    · rw [List.map_id]
      exact List.pairwise_lt_range.filter _
    · intro rank
      simpa using bounded rank
  rw [chosen]
  exact List.filter_sublist

theorem symbols_ordered (operators : List Operator)
    (increasing : (operators.map Operator.rank).Pairwise (· < ·)) :
    (operators.map Operator.symbol).Sublist ["=", "<>", ">", ">=", "<", "<=", "IN"] := by
  have ranks : (operators.map Operator.rank).Sublist (List.range 7) := by
    apply sublist_range _ _ increasing
    simp only [List.mem_map]
    rintro _ ⟨operator, _, rfl⟩
    exact Nat.lt_succ_of_le operator.rank_le
  have written : operators.map Operator.symbol =
      (operators.map Operator.rank).map fun rank => symbols.getD rank "" := by
    rw [List.map_map]
    exact List.map_congr_left fun operator _ => symbol_eq operator
  rw [written]
  exact ranks.map _

/-- What is left of operators in canonical form: in the order of their kinds, of each kind that
occurs the last. -/
structure Canonical (operators left : List Operator) : Prop where
  ordered : (left.map Operator.symbol).Sublist ["=", "<>", ">", ">=", "<", "<=", "IN"]
  increasing : (left.map Operator.rank).Pairwise (· < ·)
  kinds : ∀ rank, rank ∈ left.map Operator.rank ↔ rank ∈ operators.map Operator.rank
  holdsLast : ∀ operator, operator ∈ left ↔
    (operators.filter fun other => other.rank = operator.rank).getLast? = some operator

theorem canonical_insertion (operators : List Operator) :
    Canonical operators (operators.foldl (putInOrder Operator.rank) []) := by
  have increasing := foldl_putInOrder_increasing Operator.rank operators [] .nil
  have last := keepsLast_foldl Operator.rank operators
  exact ⟨symbols_ordered _ increasing, increasing, last.keys Operator.rank operators _, last⟩

theorem canonical_fold (operators : List Operator) :
    Canonical operators (operators.foldl add empty).toList := by
  rw [toList_foldl]
  exact canonical_insertion operators

/-- Of every kind both lists have the same operator last, or none. -/
def SameLast (first second : List Operator) : Prop :=
  ∀ rank, lastWith? Operator.rank rank first = lastWith? Operator.rank rank second

theorem eq_of_holdsLast (operators : List Operator) (set : OperatorSet)
    (holds : set.HoldsLast operators) : set = operators.foldl add empty := by
  apply toList_injective
  apply eq_of_increasing Operator.rank _ _ set.increasing (increasing _)
  intro operator
  rw [holds operator, holdsLast_fold operators operator]

theorem fold_of_sameLast (operators others : List Operator) (same : SameLast operators others) :
    operators.foldl add empty = others.foldl add empty := by
  apply eq_of_holdsLast
  intro operator
  exact (holdsLast_fold operators operator).trans (Eq.congr_left (same operator.rank))

end TypedSelect.OperatorSet
