import TypedSelect.Proofs.CanonicalOperators
import TypedSelect.Proofs.FilterOutcome
import TypedSelect.Proofs.ProjectionOutcome

/-! What comes of the check of a condition. The check looks at the operators of a set in canonical
order, at the values of a list in the order of the list, and stops at the first thing that is wrong.
Laid out in one list, what it looks at decides the outcome, and the order in which the operators
were added has no part in it. -/
namespace TypedSelect

/-- What the check of a condition looks at. Where operators or values are missing, it comes upon
that in their place. -/
inductive CheckItem where
  | operand (value : Value)
  | missing (fault : MalformedSet)

namespace CheckItem

def Passes (type : ColumnType) : CheckItem → Prop
  | .operand value => value.Conforms type
  | .missing _ => False

def error (column : String) (type : ColumnType) : CheckItem → QueryError
  | .operand value => .typeMismatch column type value.literal
  | .missing fault => .invalidCondition column fault

def fault? (type : ColumnType) : CheckItem → Option RestrictionFault
  | .operand value => value.fault? type
  | .missing fault => some (.malformed fault)

theorem fault?_none (type : ColumnType) (item : CheckItem) :
    item.fault? type = none ↔ item.Passes type := by
  cases item with
  | operand value => exact (value.fault?_none type).trans (value.conformsTo_iff type)
  | missing fault => simp [fault?, Passes]

theorem fault?_some (column : String) (type : ColumnType) (item : CheckItem)
    (failed : ¬ item.Passes type) :
    (item.fault? type).map (.ofFault column type) = some (item.error column type) := by
  cases item with
  | operand value =>
    have differs : value.conformsTo type = false := by
      rw [← Bool.not_eq_true, value.conformsTo_iff]
      exact failed
    simp [fault?, Value.fault?, differs, QueryError.ofFault, error]
  | missing fault => rfl

end CheckItem

def Operator.checkItems : Operator → List CheckItem
  | .compare _ operand => [.operand operand]
  | .oneOf [] => [.missing .emptyList]
  | .oneOf operands => operands.map .operand

def OperatorSet.checkItems (set : OperatorSet) : List CheckItem :=
  match set.toList with
  | [] => [.missing .noOperators]
  | operators => operators.flatMap Operator.checkItems

/-- All that there is to look at in a condition, in the order of the check. -/
def Restriction.checkItems : Restriction → List CheckItem
  | .literal value => [.operand value]
  | .operators set => set.checkItems

/-- The restriction to operators that are added one after the other. -/
def Restriction.ofAdded (operators : List Operator) : Restriction :=
  .operators (operators.foldl .add .empty)

/-- Some operators, each with some operands, and all of these values of a type. -/
structure OperatorSet.Valid (type : ColumnType) (set : OperatorSet) : Prop where
  given : set.toList ≠ []
  noEmptyList : .oneOf [] ∉ set.toList
  conform : ∀ operator ∈ set.toList, ∀ value ∈ operator.operands, value.Conforms type

/-- A condition that can be asked of columns of a type. -/
inductive Restriction.Valid (type : ColumnType) : Restriction → Prop where
  | literal (value : Value) (conforms : value.Conforms type) : Valid type (.literal value)
  | operators (set : OperatorSet) (valid : set.Valid type) : Valid type (.operators set)

theorem findSome?_flatMap {α β γ : Type} (parts : α → List β) (read : β → Option γ)
    (items : List α) : (items.flatMap parts).findSome? read =
      items.findSome? fun item => (parts item).findSome? read := by
  induction items with
  | nil => rfl
  | cons item rest ih =>
    rw [List.flatMap_cons, List.findSome?_append, List.findSome?_cons, ih]
    cases (parts item).findSome? read <;> rfl

theorem Operator.fault?_eq (type : ColumnType) (operator : Operator) :
    operator.fault? type = operator.checkItems.findSome? (CheckItem.fault? type) := by
  cases operator with
  | compare comparison operand => rfl
  | oneOf operands =>
    cases operands with
    | nil => rfl
    | cons value rest =>
      change _ = ((value :: rest).map CheckItem.operand).findSome? (CheckItem.fault? type)
      rw [List.findSome?_map]
      rfl

theorem OperatorSet.fault?_eq (type : ColumnType) (set : OperatorSet) :
    set.fault? type = set.checkItems.findSome? (CheckItem.fault? type) := by
  have each : Operator.fault? type =
      fun operator => operator.checkItems.findSome? (CheckItem.fault? type) :=
    funext (Operator.fault?_eq type)
  unfold fault? checkItems
  rw [each]
  cases set.toList with
  | nil => rfl
  | cons operator rest => exact (findSome?_flatMap _ _ _).symm

theorem Operator.checkItems_pass (type : ColumnType) (operator : Operator) :
    (∀ item ∈ operator.checkItems, item.Passes type) ↔
      operator ≠ .oneOf [] ∧ ∀ value ∈ operator.operands, value.Conforms type := by
  cases operator with
  | compare comparison operand => simp [checkItems, operands, CheckItem.Passes]
  | oneOf operands =>
    cases operands with
    | nil => simp [checkItems, CheckItem.Passes]
    | cons value rest => simp [checkItems, Operator.operands, CheckItem.Passes]

theorem OperatorSet.checkItems_pass (type : ColumnType) (set : OperatorSet) :
    (∀ item ∈ set.checkItems, item.Passes type) ↔ set.toList ≠ [] ∧
      ∀ operator ∈ set.toList, ∀ item ∈ operator.checkItems, item.Passes type := by
  unfold checkItems
  cases set.toList with
  | nil => simp [CheckItem.Passes]
  | cons operator rest =>
    simp only [List.mem_flatMap, ne_eq, reduceCtorEq, not_false_eq_true, true_and]
    exact ⟨fun passed operator member item inside => passed item ⟨operator, member, inside⟩,
      fun passed item ⟨operator, member, inside⟩ => passed operator member item inside⟩

theorem OperatorSet.valid_iff (type : ColumnType) (set : OperatorSet) :
    set.Valid type ↔ ∀ item ∈ set.checkItems, item.Passes type := by
  simp only [checkItems_pass, Operator.checkItems_pass]
  constructor
  · rintro ⟨given, noEmptyList, conform⟩
    refine ⟨given, fun operator member => ⟨?_, conform operator member⟩⟩
    rintro rfl
    exact noEmptyList member
  · rintro ⟨given, each⟩
    exact ⟨given, fun member => (each _ member).1 rfl,
      fun operator member => (each operator member).2⟩

theorem OperatorSet.sameLast_of_perm (operators others : List Operator)
    (perm : operators.Perm others) (distinct : (operators.map Operator.rank).Nodup) :
    SameLast operators others := by
  intro rank
  apply Option.ext
  intro operator
  rw [lastWith?_of_nodup Operator.rank operators distinct,
    lastWith?_of_nodup Operator.rank others ((perm.map Operator.rank).nodup_iff.mp distinct),
    perm.mem_iff]

namespace Restriction

theorem fault?_eq (type : ColumnType) (restriction : Restriction) :
    restriction.fault? type = restriction.checkItems.findSome? (CheckItem.fault? type) := by
  cases restriction with
  | literal value =>
    rw [checkItems, List.findSome?_singleton]
    rfl
  | operators set => exact set.fault?_eq type

theorem valid_iff (type : ColumnType) (restriction : Restriction) :
    restriction.Valid type ↔ ∀ item ∈ restriction.checkItems, item.Passes type := by
  cases restriction with
  | literal value =>
    rw [checkItems, List.forall_mem_singleton]
    constructor
    · rintro (⟨_, conforms⟩ | _)
      exact conforms
    · exact .literal value
  | operators set =>
    rw [checkItems, ← set.valid_iff]
    constructor
    · rintro (_ | ⟨_, valid⟩)
      exact valid
    · exact .operators set

theorem check_failing (restriction : Restriction) (column : String) (type : ColumnType)
    (error : QueryError) : restriction.check column type = .error error ↔ ∃ item,
      FirstFailing (CheckItem.Passes type) restriction.checkItems item ∧
        error = item.error column type := by
  rw [check_failure, fault?_eq, Option.map_eq_some_iff]
  simp only [findSome?_firstFailing _ _ (CheckItem.fault?_none type)]
  constructor
  · rintro ⟨fault, ⟨item, first, found⟩, rfl⟩
    have reported := item.fault?_some column type first.failed
    rw [found] at reported
    exact ⟨item, first, Option.some.inj reported⟩
  · rintro ⟨item, first, rfl⟩
    have reported := item.fault?_some column type first.failed
    obtain ⟨fault, found, same⟩ := Option.map_eq_some_iff.mp reported
    exact ⟨fault, ⟨item, first, found⟩, same⟩

/-- The check of a condition passes if the condition is valid for the type of the column, and
otherwise reports the first thing that is wrong. For a set of operators the check is the same in
whatever order they were added, of each kind the last. -/
theorem check_decided (restriction : Restriction) (column : String) (type : ColumnType) :
    (restriction.check column type = .ok () ↔ restriction.Valid type) ∧
    (∀ error, restriction.check column type = .error error ↔ ∃ item,
      FirstFailing (CheckItem.Passes type) restriction.checkItems item ∧
        error = item.error column type ∧
        ∀ value, item = .operand value → error.message =
          s!"type mismatch on column '{column}': expected {type.name}, received {value.literal}") ∧
    ∀ added, restriction = ofAdded added →
      OperatorSet.Canonical added (added.foldl .add OperatorSet.empty).toList ∧
      (∀ others, OperatorSet.SameLast added others →
        (ofAdded others).check column type = restriction.check column type) ∧
      ∀ others, added.Perm others → (added.map Operator.rank).Nodup →
        (ofAdded others).check column type = restriction.check column type := by
  refine ⟨?_, fun error => ?_, ?_⟩
  · rw [check_ok, fault?_eq, List.findSome?_eq_none_iff, valid_iff]
    simp only [CheckItem.fault?_none]
  · rw [check_failing]
    refine exists_congr fun item => and_congr_right fun _ => (and_iff_left_of_imp ?_).symm
    rintro rfl value rfl
    rfl
  · rintro added rfl
    -- Reordered or not, operators with the same last ones of each kind make one set.
    have reordered (others : List Operator) (same : OperatorSet.SameLast added others) :
        (ofAdded others).check column type = (ofAdded added).check column type := by
      rw [ofAdded, ofAdded, OperatorSet.fold_of_sameLast added others same]
    refine ⟨OperatorSet.canonical_fold added, reordered, fun others perm distinct => ?_⟩
    exact reordered others (OperatorSet.sameLast_of_perm added others perm distinct)

/-- Of these the list without values is added first and looked at last. -/
def faultyOperators : List Operator :=
  [.oneOf [], .compare .less (.text "b"), .compare .greater (.int 3)]

theorem faultyOperators_decided :
    (∃ item, FirstFailing (CheckItem.Passes .number) (ofAdded faultyOperators).checkItems item ∧
      QueryError.typeMismatch "age" .number "'b'" = item.error "age" .number) ∧
    ¬ (ofAdded faultyOperators).Valid .number ∧
    (ofAdded faultyOperators.reverse).check "age" .number =
      .error (.typeMismatch "age" .number "'b'") ∧
    (ofAdded (.compare .less (.int 9) :: faultyOperators)).check "age" .number =
      .error (.typeMismatch "age" .number "'b'") := by
  obtain ⟨passes, failing, ordered⟩ := check_decided (ofAdded faultyOperators) "age" .number
  obtain ⟨-, lasts, reordered⟩ := ordered faultyOperators rfl
  have failed : (ofAdded faultyOperators).check "age" .number =
    .error (.typeMismatch "age" .number "'b'") := rfl
  have sameLast : OperatorSet.SameLast faultyOperators
      (.compare .less (.int 9) :: faultyOperators)
    | 0 | 1 | 2 | 3 | 4 | 5 | 6 => rfl
    | _ + 7 => rfl
  obtain ⟨item, first, same, _⟩ := (failing _).mp failed
  refine ⟨⟨item, first, same⟩, fun valid => ?_, ?_, (lasts _ sameLast).trans failed⟩
  · exact absurd (failed.symm.trans (passes.mpr valid)) (by simp)
  · exact (reordered _ (List.reverse_perm _).symm (by decide)).trans failed

end Restriction

end TypedSelect
