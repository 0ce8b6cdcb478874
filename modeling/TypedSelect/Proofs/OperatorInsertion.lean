import Mathlib.Data.List.Induction
import TypedSelect.Condition.Operator
import TypedSelect.Proofs.LastOfEach

/-! What a set of operators keeps of a list. An operator is put between those of lower and those of
higher kinds, so that of each kind the last one stays; a set's own list has one operator of each
kind, so that the set is made again from it. -/
namespace TypedSelect

section Ordered

variable {α : Type} (key : α → Nat)

theorem eq_of_increasing (first second : List α) (increasing : (first.map key).Pairwise (· < ·))
    (increasing' : (second.map key).Pairwise (· < ·))
    (same : ∀ item, item ∈ first ↔ item ∈ second) : first = second := by
  rw [List.pairwise_map] at increasing increasing'
  have distinct (items : List α) (ordered : items.Pairwise fun a b => key a < key b) :
      items.Nodup := by
    refine ordered.imp ?_
    rintro a _ before rfl
    exact Nat.lt_irrefl _ before
  have perm := (List.perm_ext_iff_of_nodup (distinct first increasing)
    (distinct second increasing')).mpr same
  exact perm.eq_of_pairwise (fun a b _ _ before after => absurd before (Nat.lt_asymm after))
    increasing increasing'

theorem putInOrder_eq (items : List α) (added : α)
    (ordered : (items.map key).Pairwise (· < ·)) :
    putInOrder key items added = (items.filter fun item => key item < key added) ++
      added :: items.filter fun item => key added < key item := by
  obtain ⟨lower, replaced, higher, rfl, put, before, same, after⟩ :=
    exists_of_putInOrder key items added ordered
  have kept (items : List α) (inside : α → Bool) (all : ∀ item ∈ items, inside item = true) :
      items.filter inside = items := List.filter_eq_self.mpr all
  have dropped (items : List α) (inside : α → Bool) (none : ∀ item ∈ items, ¬inside item = true) :
      items.filter inside = [] := List.filter_eq_nil_iff.mpr none
  rw [put]
  simp only [List.filter_append]
  rw [kept lower _ (by simpa using before), dropped replaced _ (by grind),
    dropped higher _ (by grind), dropped lower _ (by grind), dropped replaced _ (by grind),
    kept higher _ (by simpa using after)]
  simp

theorem mem_putInOrder (items : List α) (added item : α)
    (ordered : (items.map key).Pairwise (· < ·)) :
    item ∈ putInOrder key items added ↔
      if key added = key item then item = added else item ∈ items := by
  rw [putInOrder_eq key items added ordered]
  simp only [List.mem_append, List.mem_cons, List.mem_filter, decide_eq_true_eq]
  grind

theorem foldl_putInOrder_increasing (added items : List α)
    (ordered : (items.map key).Pairwise (· < ·)) :
    ((added.foldl (putInOrder key) items).map key).Pairwise (· < ·) := by
  induction added generalizing items with
  | nil => exact ordered
  | cons item rest ih => exact ih _ (putInOrder_increasing key items item ordered)

theorem keepsLast_foldl (items : List α) :
    KeepsLast key items (items.foldl (putInOrder key) []) := by
  induction items using List.reverseRecOn with
  | nil => simp [KeepsLast, lastWith?]
  | append_singleton items item ih =>
    rw [List.foldl_append]
    exact ih.concat key items _ _ item fun other =>
      mem_putInOrder key _ item other (foldl_putInOrder_increasing key items [] .nil)

/-- A list in order is made again by insertion of its items. -/
theorem foldl_putInOrder (items : List α) (ordered : (items.map key).Pairwise (· < ·)) :
    items.foldl (putInOrder key) [] = items := by
  induction items using List.reverseRecOn with
  | nil => rfl
  | append_singleton items item ih =>
    rw [List.map_append, List.pairwise_append] at ordered
    obtain ⟨earlier, -, below⟩ := ordered
    simp only [List.mem_map, List.map_singleton, List.mem_singleton, forall_eq] at below
    have lower : ∀ other ∈ items, key other < key item :=
      fun other member => below _ ⟨other, member, rfl⟩
    rw [List.foldl_append, ih earlier, List.foldl_cons, List.foldl_nil,
      putInOrder_eq key items item earlier, List.filter_eq_self.mpr (by simpa using lower),
      List.filter_eq_nil_iff.mpr]
    intro other member
    simpa using Nat.le_of_lt (lower other member)

end Ordered

theorem Operator.rank_le (operator : Operator) : operator.rank ≤ 6 := by
  cases operator with
  | compare comparison operand =>
    change comparison.rank ≤ 6
    cases comparison <;> decide
  | oneOf operands => exact Nat.le_refl 6

namespace OperatorSet

theorem toList_injective (first second : OperatorSet) (same : first.toList = second.toList) :
    first = second := by
  cases first
  cases second
  cases same
  rfl

theorem toList_foldl (operators : List Operator) (set : OperatorSet) :
    (operators.foldl add set).toList =
      operators.foldl (putInOrder Operator.rank) set.toList := by
  induction operators generalizing set with
  | nil => rfl
  | cons operator rest ih => exact ih (set.add operator)

theorem foldl_toList (set : OperatorSet) : set.toList.foldl add empty = set := by
  apply toList_injective
  rw [toList_foldl]
  exact foldl_putInOrder Operator.rank set.toList set.increasing

theorem toList_add (set : OperatorSet) (added : Operator) :
    (set.add added).toList = (set.toList.filter fun other => other.rank < added.rank) ++
      added :: set.toList.filter fun other => added.rank < other.rank :=
  putInOrder_eq Operator.rank set.toList added set.increasing

theorem toList_single (operator : Operator) : (empty.add operator).toList = [operator] :=
  toList_add empty operator

/-- Of each kind the set has the last operator that a list gives. -/
def HoldsLast (operators : List Operator) (set : OperatorSet) : Prop :=
  ∀ operator, operator ∈ set.toList ↔
    (operators.filter fun other => other.rank = operator.rank).getLast? = some operator

theorem holdsLast_fold (operators : List Operator) :
    (operators.foldl add empty).HoldsLast operators := by
  intro operator
  rw [toList_foldl]
  exact keepsLast_foldl Operator.rank operators operator

theorem HoldsLast.mem_operators (operators : List Operator) (set : OperatorSet)
    (holds : set.HoldsLast operators) (operator : Operator) (member : operator ∈ set.toList) :
    operator ∈ operators :=
  (lastWith?_spec Operator.rank _ operators operator ((holds operator).mp member)).1

private theorem exists_without_operands (operators : List Operator) :
    (∃ operator ∈ operators, operator.operands = []) ↔ .oneOf [] ∈ operators := by
  constructor
  · rintro ⟨operator, member, empty⟩
    cases operator with
    | compare comparison operand => cases empty
    | oneOf operands =>
      obtain rfl : operands = [] := empty
      exact member
  · intro member
    exact ⟨_, member, rfl⟩

theorem ofList_eq (operators : List Operator) :
    ofList operators =
      if operators = [] then .error .noOperators
      else if .oneOf [] ∈ operators then .error .emptyList
      else .ok (operators.foldl add empty) := by
  unfold ofList
  simp only [List.isEmpty_iff, List.any_eq_true, exists_without_operands]

theorem ofList_ok (operators : List Operator) (set : OperatorSet) :
    ofList operators = .ok set ↔ operators ≠ [] ∧
      (∀ operator ∈ operators, operator.operands ≠ []) ∧ set = operators.foldl add empty := by
  have complete : (∀ operator ∈ operators, operator.operands ≠ []) ↔ .oneOf [] ∉ operators := by
    rw [← exists_without_operands]
    simp
  rw [ofList_eq, complete]
  split
  · simp [*]
  · split <;> simp [*, eq_comm]

end OperatorSet

/-- Operators as a text has them: some, in the order of their kinds with none twice, and none with
an empty list of values. -/
structure Operator.WellFormedList (operators : List Operator) : Prop where
  nonempty : operators ≠ []
  increasing : (operators.map Operator.rank).Pairwise (· < ·)
  noEmptyList : .oneOf [] ∉ operators

theorem OperatorSet.ofList_toList (set : OperatorSet)
    (wellFormed : Operator.WellFormedList set.toList) : ofList set.toList = .ok set := by
  rw [ofList_eq, if_neg wellFormed.nonempty, if_neg wellFormed.noEmptyList, foldl_toList]

/-- The well-formed lists are those that a set made from them lists again. -/
theorem Operator.wellFormedList_iff (operators : List Operator) :
    Operator.WellFormedList operators ↔
      ∃ set, OperatorSet.ofList operators = .ok set ∧ set.toList = operators := by
  constructor
  · intro wellFormed
    exact ⟨_, OperatorSet.ofList_toList ⟨operators, wellFormed.increasing⟩ wellFormed, rfl⟩
  · rintro ⟨set, made, rfl⟩
    obtain ⟨nonempty, each, _⟩ := (OperatorSet.ofList_ok set.toList set).mp made
    exact ⟨nonempty, set.increasing, fun member => each _ member rfl⟩

end TypedSelect
