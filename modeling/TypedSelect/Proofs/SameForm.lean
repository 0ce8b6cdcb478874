import Mathlib.Data.List.Forall2
import TypedSelect.Proofs.OperatorInsertion
import TypedSelect.Proofs.Placeholders

/-! Statements that differ in their operands only. The text with placeholders is the same for all of
them, so that no operand has a say in it; and the list of operands beside it leaves nothing out,
since the form of a statement says which of them belongs where. -/
namespace TypedSelect

/-- Operators of one kind, with the same number of operands. -/
inductive Operator.SameForm : Operator → Operator → Prop
  | compare (comparison : Comparison) (operand operand' : Value) :
      SameForm (.compare comparison operand) (.compare comparison operand')
  | oneOf (operands operands' : List Value) (sameLength : operands.length = operands'.length) :
      SameForm (.oneOf operands) (.oneOf operands')

/-- Two literals, or sets with the same kinds of operators. -/
inductive Restriction.SameForm : Restriction → Restriction → Prop
  | literal (value value' : Value) : SameForm (.literal value) (.literal value')
  | operators (set set' : OperatorSet)
      (each : List.Forall₂ Operator.SameForm set.toList set'.toList) :
      SameForm (.operators set) (.operators set')

structure Condition.SameForm (first second : Condition) : Prop where
  column : first.column = second.column
  restriction : first.restriction.SameForm second.restriction

/-- Statements that have all in common but the operands of their conditions. -/
structure Statement.SameForm (first second : Statement) : Prop where
  table : first.table = second.table
  columns : first.columns = second.columns
  conditions : List.Forall₂ Condition.SameForm first.conditions second.conditions
  orderBy : first.orderBy = second.orderBy
  limit : first.limit = second.limit
  offset : first.offset = second.offset
  joins : first.joins = second.joins

/-- The same fixed text, or two operands. -/
inductive Fragment.SameForm : Fragment → Fragment → Prop
  | text (content : String) : SameForm (.text content) (.text content)
  | operand (value value' : Value) : SameForm (.operand value) (.operand value')

theorem map_eq_of_each {α β : Type} (read : α → β) {related : α → α → Prop} (first second : List α)
    (each : List.Forall₂ related first second)
    (same : ∀ item other, related item other → read item = read other) :
    first.map read = second.map read := by
  induction each with
  | nil => rfl
  | cons head _ ih => rw [List.map_cons, List.map_cons, same _ _ head, ih]

namespace Fragment

theorem SameForm.refl (fragment : Fragment) : SameForm fragment fragment := by
  cases fragment with
  | text content => exact .text content
  | operand value => exact .operand value value

theorem sameForm_refl (fragments : List Fragment) : List.Forall₂ SameForm fragments fragments :=
  List.forall₂_same.mpr fun fragment _ => .refl fragment

theorem placeholderTexts_of_sameForm (first second : List Fragment)
    (same : List.Forall₂ SameForm first second) :
    first.map placeholderText = second.map placeholderText := by
  refine map_eq_of_each placeholderText first second same ?_
  intro _ _ sameForm
  cases sameForm <;> rfl

theorem sameForm_separated (separator : String) (first second : List (List Fragment))
    (same : List.Forall₂ (List.Forall₂ SameForm) first second) :
    List.Forall₂ SameForm (separated separator first) (separated separator second) := by
  unfold separated
  induction same with
  | nil => exact .nil
  | cons head tail ih =>
    cases tail with
    | nil => simpa using head
    | cons next rest =>
      rw [List.intercalate_cons_cons, List.intercalate_cons_cons]
      exact List.rel_append (List.rel_append head (sameForm_refl _)) ih

end Fragment

open Fragment

theorem Operator.sameForm_fragments (column : String) (first second : Operator)
    (same : first.SameForm second) :
    List.Forall₂ Fragment.SameForm (first.fragments column) (second.fragments column) := by
  cases same with
  | compare comparison operand operand' =>
    refine List.rel_append (sameForm_refl [.text column, .text " ", .text comparison.symbol,
      .text " "]) ?_
    exact .cons (.operand operand operand') .nil
  | oneOf operands operands' sameLength =>
    have listed : List.Forall₂ (List.Forall₂ Fragment.SameForm)
        (operands.map fun value => [.operand value])
        (operands'.map fun value => [.operand value]) := by
      rw [List.forall₂_map_left_iff, List.forall₂_map_right_iff, List.forall₂_iff_get]
      exact ⟨sameLength, fun _ _ _ => .cons (.operand _ _) .nil⟩
    have values := sameForm_separated ", " _ _ listed
    exact List.rel_append (List.rel_append (sameForm_refl _) values) (sameForm_refl _)

theorem Condition.sameForm_fragments (first second : Condition) (same : first.SameForm second) :
    List.Forall₂ Fragment.SameForm first.fragments second.fragments := by
  obtain ⟨column, restriction⟩ := first
  obtain ⟨column', restriction'⟩ := second
  obtain rfl : column = column' := same.column
  have restrictions : restriction.SameForm restriction' := same.restriction
  unfold Condition.fragments
  cases restrictions with
  | literal value value' =>
    refine List.rel_append (sameForm_refl [.text column, .text " = "]) ?_
    exact .cons (.operand value value') .nil
  | operators set set' each =>
    apply sameForm_separated
    rw [List.forall₂_map_left_iff, List.forall₂_map_right_iff]
    exact each.imp (Operator.sameForm_fragments column)

theorem sameForm_conditionsFragments (first second : List Condition)
    (same : List.Forall₂ Condition.SameForm first second) :
    List.Forall₂ Fragment.SameForm (conditionsFragments first) (conditionsFragments second) := by
  apply sameForm_separated
  rw [List.forall₂_map_left_iff, List.forall₂_map_right_iff]
  exact same.imp Condition.sameForm_fragments

theorem Statement.sameForm_fragments (first second : Statement) (same : first.SameForm second) :
    List.Forall₂ Fragment.SameForm first.fragments second.fragments := by
  obtain ⟨table, columns, conditions, orderBy, limit, offset, joins⟩ := first
  obtain ⟨table', columns', conditions', orderBy', limit', offset', joins'⟩ := second
  obtain ⟨sameTable, sameColumns, each, sameOrder, sameLimit, sameOffset, sameJoins⟩ := same
  dsimp only at sameTable sameColumns each sameOrder sameLimit sameOffset sameJoins
  subst sameTable sameColumns sameOrder sameLimit sameOffset sameJoins
  have clause : List.Forall₂ Fragment.SameForm
      (if conditions.isEmpty then [] else .text " WHERE " :: conditionsFragments conditions)
      (if conditions'.isEmpty then [] else .text " WHERE " :: conditionsFragments conditions') := by
    cases each with
    | nil => exact .nil
    | cons head tail =>
      exact .cons (.text _) (sameForm_conditionsFragments _ _ (.cons head tail))
  refine List.rel_append (List.rel_append (List.rel_append (List.rel_append ?_
    (sameForm_refl _)) (sameForm_refl _)) (sameForm_refl _)) (sameForm_refl _)
  exact List.rel_append (sameForm_refl _) clause

section Parts

variable {α β : Type} {same : α → α → Prop} {parts : α → List β}

theorem length_flatMap_of_each (first second : List α) (each : List.Forall₂ same first second)
    (lengths : ∀ item other, same item other → (parts item).length = (parts other).length) :
    (first.flatMap parts).length = (second.flatMap parts).length := by
  induction each with
  | nil => rfl
  | cons head _ ih =>
    rw [List.flatMap_cons, List.flatMap_cons, List.length_append, List.length_append,
      lengths _ _ head, ih]

/-- Lists are told apart by their parts, one after another, where the places of the parts are
known. -/
theorem eq_of_flatMap_eq (first second : List α) (each : List.Forall₂ same first second)
    (lengths : ∀ item other, same item other → (parts item).length = (parts other).length)
    (told : ∀ item other, same item other → parts item = parts other → item = other)
    (equal : first.flatMap parts = second.flatMap parts) : first = second := by
  induction each with
  | nil => rfl
  | cons head _ ih =>
    rw [List.flatMap_cons, List.flatMap_cons] at equal
    obtain ⟨sameHead, sameRest⟩ := List.append_inj equal (lengths _ _ head)
    rw [told _ _ head sameHead, ih sameRest]

end Parts

theorem Operator.SameForm.length (first second : Operator) (same : first.SameForm second) :
    first.operands.length = second.operands.length := by
  cases same with
  | compare comparison operand operand' => rfl
  | oneOf operands operands' sameLength => exact sameLength

theorem Operator.SameForm.eq (first second : Operator) (same : first.SameForm second)
    (operands : first.operands = second.operands) : first = second := by
  cases same with
  | compare comparison operand operand' => rw [List.singleton_inj.mp operands]
  | oneOf values values' _ => exact congrArg Operator.oneOf operands

theorem Restriction.SameForm.length (first second : Restriction) (same : first.SameForm second) :
    first.operands.length = second.operands.length := by
  cases same with
  | literal value value' => rfl
  | operators set set' each =>
    exact length_flatMap_of_each set.toList set'.toList each Operator.SameForm.length

theorem Restriction.SameForm.eq (first second : Restriction) (same : first.SameForm second)
    (operands : first.operands = second.operands) : first = second := by
  cases same with
  | literal value value' => rw [List.singleton_inj.mp operands]
  | operators set set' each =>
    have operators := eq_of_flatMap_eq set.toList set'.toList each Operator.SameForm.length
      Operator.SameForm.eq operands
    rw [set.toList_injective set' operators]

theorem Condition.SameForm.length (first second : Condition) (same : first.SameForm second) :
    first.restriction.operands.length = second.restriction.operands.length :=
  same.restriction.length first.restriction second.restriction

theorem Condition.SameForm.eq (first second : Condition) (same : first.SameForm second)
    (operands : first.restriction.operands = second.restriction.operands) : first = second := by
  obtain ⟨column, restriction⟩ := first
  obtain ⟨column', restriction'⟩ := second
  obtain rfl : column = column' := same.column
  rw [same.restriction.eq restriction restriction' operands]

namespace Statement

/-- Statements of one form have one text with placeholders and as many parameters, and those with
the same parameters are the same. -/
theorem parameters_complete (first second : Statement) (same : first.SameForm second) :
    first.parameterized.1 = second.parameterized.1 ∧
      first.parameterized.2.length = second.parameterized.2.length ∧
      (first.parameterized.2 = second.parameterized.2 → first = second) := by
  rw [first.parameters_eq, second.parameters_eq]
  refine ⟨?_, ?_, fun parameters => ?_⟩
  · have fragments := sameForm_fragments first second same
    exact congrArg String.join (placeholderTexts_of_sameForm _ _ fragments)
  · exact length_flatMap_of_each first.conditions second.conditions same.conditions
      Condition.SameForm.length
  · have conditions := eq_of_flatMap_eq first.conditions second.conditions same.conditions
      Condition.SameForm.length Condition.SameForm.eq parameters
    cases first
    cases second
    exact (Statement.mk.injEq ..).mpr ⟨same.table, same.columns, conditions, same.orderBy,
      same.limit, same.offset, same.joins⟩

/-- A statement with three operands in two conditions. -/
def ofOperands (name : Value) (first second : Value) : Statement :=
  { ofTable "users" with
    conditions := [⟨"name", .literal name⟩,
      ⟨"id", .operators ⟨[.oneOf [first, second]], List.pairwise_singleton ..⟩⟩] }

theorem quoted_parameters_complete :
    let plain := ofOperands (.text "alice") (.int 1) (.int 2)
    let quoted := ofOperands (.text "?' OR 1 = 1; --") .null (.text "?, ?")
    plain.parameterized.1 = quoted.parameterized.1 ∧
      plain.parameterized.1 = "SELECT * FROM users WHERE name = ? AND id IN (?, ?);" ∧
      plain.parameterized.2.length = quoted.parameterized.2.length ∧
      (plain.parameterized.2 = quoted.parameterized.2 → plain = quoted) := by
  intro plain quoted
  have set : List.Forall₂ Operator.SameForm [.oneOf [.int 1, .int 2]]
      [.oneOf [.null, .text "?, ?"]] := .cons (.oneOf _ _ rfl) .nil
  have same : plain.SameForm quoted :=
    ⟨rfl, rfl, .cons ⟨rfl, .literal _ _⟩ (.cons ⟨rfl, .operators _ _ set⟩ .nil), rfl, rfl, rfl,
      rfl⟩
  obtain ⟨text, lengths, complete⟩ := parameters_complete plain quoted same
  exact ⟨text, by decide, lengths, complete⟩

end Statement

end TypedSelect
