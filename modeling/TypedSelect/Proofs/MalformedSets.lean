import TypedSelect.Proofs.DecodedStatement
import TypedSelect.Proofs.FilterOutcome

/-! Sets of operators that are malformed. The decoder judges the list that a tree gives, before it
makes a set of it; the check of a query judges the set, operator by operator, and looks at the types
of the operands on the way. They find the same sets malformed, as of a set's operators the list of
values comes last: where the check gets to it, all other operands have passed. -/
namespace TypedSelect

open Json

theorem Value.fault?_ne_malformed (type : ColumnType) (value : Value) (fault : MalformedSet) :
    value.fault? type ≠ some (.malformed fault) := by
  unfold fault?
  split <;> simp

theorem Operator.fault?_malformed (type : ColumnType) (operator : Operator) (fault : MalformedSet)
    (found : operator.fault? type = some (.malformed fault)) : operator = .oneOf [] := by
  unfold fault? at found
  split at found
  · rename_i empty
    cases operator with
    | compare comparison operand => cases empty
    | oneOf operands =>
      obtain rfl : operands = [] := List.isEmpty_iff.mp empty
      rfl
  · obtain ⟨value, _, other⟩ := List.exists_of_findSome?_eq_some found
    exact absurd other (value.fault?_ne_malformed type fault)

theorem Operator.fault?_of_conforms (type : ColumnType) (operator : Operator)
    (conforms : ∀ value ∈ operator.operands, value.conformsTo type = true) :
    operator.fault? type =
      if operator = .oneOf [] then some (.malformed .emptyList) else none := by
  split
  · rename_i empty
    rw [empty]
    rfl
  · rename_i given
    refine (fault?_none type operator).mpr ⟨fun empty => given ?_, conforms⟩
    cases operator with
    | compare comparison operand => cases empty
    | oneOf operands => exact congrArg Operator.oneOf empty

namespace OperatorSet

theorem nothing_after_oneOf (set : OperatorSet) (before after : List Operator)
    (operands : List Value) (split : set.toList = before ++ .oneOf operands :: after) :
    after = [] := by
  have ordered := List.pairwise_map.mp set.increasing
  rw [split, List.pairwise_append, List.pairwise_cons] at ordered
  refine List.eq_nil_iff_forall_not_mem.mpr fun later member => ?_
  have above : 6 < later.rank := ordered.2.1.1 later member
  exact absurd later.rank_le (Nat.not_le_of_lt above)

theorem findSome?_fault (type : ColumnType) (operators : List Operator)
    (conforms : ∀ operator ∈ operators, ∀ value ∈ operator.operands,
      value.conformsTo type = true) :
    operators.findSome? (Operator.fault? type) =
      if .oneOf [] ∈ operators then some (.malformed .emptyList) else none := by
  induction operators with
  | nil => rfl
  | cons operator rest ih =>
    obtain ⟨first, others⟩ := List.forall_mem_cons.mp conforms
    rw [List.findSome?_cons, operator.fault?_of_conforms type first, ih others]
    by_cases empty : operator = .oneOf []
    · simp [empty]
    · simp [empty, Ne.symm empty]

theorem fault?_of_conforms (type : ColumnType) (set : OperatorSet)
    (conforms : ∀ operator ∈ set.toList, ∀ value ∈ operator.operands,
      value.conformsTo type = true) (fault : MalformedSet) :
    set.fault? type = some (.malformed fault) ↔ ofList set.toList = .error fault := by
  rw [fault?, findSome?_fault type set.toList conforms, ofList_eq]
  by_cases none : set.toList = []
  · simp [none]
  · by_cases empty : .oneOf [] ∈ set.toList <;> simp [none, empty]

theorem conforms_of_malformed (type : ColumnType) (set : OperatorSet) (fault : MalformedSet)
    (found : set.fault? type = some (.malformed fault)) :
    ∀ operator ∈ set.toList, ∀ value ∈ operator.operands, value.conformsTo type = true := by
  unfold fault? at found
  split at found
  · rename_i none
    simp [List.isEmpty_iff.mp none]
  · obtain ⟨before, operator, after, split, given, passed⟩ :=
      List.findSome?_eq_some_iff.mp found
    obtain rfl := operator.fault?_malformed type fault given
    obtain rfl := set.nothing_after_oneOf before after [] split
    intro earlier member
    rw [split, List.mem_append, List.mem_singleton] at member
    rcases member with member | rfl
    · exact ((Operator.fault?_none type earlier).mp (passed earlier member)).2
    · simp [Operator.operands]

/-- The check finds a set malformed if the set's own list makes no set, unless an operand of another
type comes first. -/
theorem fault?_malformed (type : ColumnType) (set : OperatorSet) (fault : MalformedSet) :
    set.fault? type = some (.malformed fault) ↔
      (∀ operator ∈ set.toList, ∀ value ∈ operator.operands, value.conformsTo type = true) ∧
        ofList set.toList = .error fault := by
  constructor
  · intro found
    have conforms := conforms_of_malformed type set fault found
    exact ⟨conforms, (fault?_of_conforms type set conforms fault).mp found⟩
  · rintro ⟨conforms, malformed⟩
    exact (fault?_of_conforms type set conforms fault).mpr malformed

theorem ofJson_form (set : OperatorSet)
    (storable : ∀ operator ∈ set.toList, ∀ value ∈ operator.operands, value.Storable)
    (order : List (String × Json) → List (String × Json)) (keeps : KeepsMembers order) :
    ofJson (set.toJson.arranged order) = (ofList set.toList).mapError .malformed := by
  have read : asList Operator.ofJson (set.toJson.arranged order) = .ok set.toList :=
    list_readsBack Operator.toJson Operator.ofJson set.toList
      (fun operator member => operator.readsBack (storable operator member)) order keeps
  unfold ofJson
  rw [read]
  cases made : ofList set.toList <;> simp [bind, Except.bind, made, Except.mapError]

end OperatorSet

namespace Value

theorem storable_of_conforms (value : Value) (type : ColumnType)
    (conforms : value.conformsTo type = true) : value.Storable := by
  cases value with
  | float x => exact finite_of_conformsTo x type conforms
  | _ => trivial

end Value

namespace Restriction

theorem ofJson_operators (set : OperatorSet)
    (order : List (String × Json) → List (String × Json)) (keeps : KeepsMembers order) :
    ofJson ((Restriction.operators set).toJson.arranged order) =
      (OperatorSet.ofJson (set.toJson.arranged order)).map .operators := by
  unfold ofJson
  rw [toJson, pair_arranged keeps "kind" "value" "operators" set.toJson (by decide)]
  rfl

theorem storable_of_check (restriction : Restriction) (column : String) (type : ColumnType)
    (valid : restriction.check column type = .ok ()) : restriction.Storable := by
  have sound := (check_ok column type restriction).mp valid
  constructor
  · rintro set rfl
    exact set.wellFormed_of_fault?_none type sound
  · intro value member
    exact value.storable_of_conforms type
      (restriction.conforms_of_fault?_none type sound value member)

theorem not_malformed_of_ofJson (json : Json) (restriction : Restriction)
    (read : ofJson json = .ok restriction) (type : ColumnType) (fault : MalformedSet) :
    restriction.fault? type ≠ some (.malformed fault) := by
  intro found
  obtain ⟨inner, _, ⟨value, rfl, _⟩ | ⟨set, rfl, decoded⟩⟩ := ofJson_ok json restriction read
  · exact value.fault?_ne_malformed type fault found
  · have wellFormed := (set.ofJson_ok inner decoded).1
    have refused := ((set.fault?_malformed type fault).mp found).2
    rw [set.ofList_toList wellFormed] at refused
    cases refused

theorem check_malformed (column : String) (type : ColumnType) (restriction : Restriction)
    (fault : MalformedSet) :
    restriction.check column type = .error (.invalidCondition column fault) ↔
      restriction.fault? type = some (.malformed fault) := by
  rw [check_failure]
  rcases restriction.fault? type with _ | (_ | _) <;> simp [QueryError.ofFault]

/-- Decoder and check agree on which conditions are malformed. What passes the check for some type
is read back from its form; what a tree gives has no fault but operands of another type; and of a
set whose operands are all of the type, however it was built, the form is rejected exactly for the
fault that the check finds. -/
theorem malformed_agree (restriction : Restriction) (column : String) (type : ColumnType) :
    (restriction.check column type = .ok () → ReadsBack toJson ofJson restriction) ∧
    (∀ json, ofJson json = .ok restriction →
      restriction.check column type = .ok () ∨ ∃ received,
        restriction.check column type = .error (.typeMismatch column type received)) ∧
    ∀ set, restriction = .operators set →
      (∀ value ∈ restriction.operands, value.conformsTo type = true) →
      ∀ order, KeepsMembers order → ∀ error,
        (OperatorSet.ofJson (set.toJson.arranged order) = .error error ↔ ∃ fault,
          error = .malformed fault ∧
            restriction.check column type = .error (.invalidCondition column fault)) ∧
        (ofJson (restriction.toJson.arranged order) = .error error ↔ ∃ fault,
          error = .malformed fault ∧
            restriction.check column type = .error (.invalidCondition column fault)) := by
  refine ⟨fun valid => ?_, fun json read => ?_, ?_⟩
  · exact restriction.readsBack (restriction.storable_of_check column type valid)
  · cases found : restriction.fault? type with
    | none => exact .inl ((check_ok column type restriction).mpr found)
    | some fault =>
      cases fault with
      | malformed fault =>
        exact absurd found (not_malformed_of_ofJson json restriction read type fault)
      | mismatch received =>
        refine .inr ⟨received.literal, (check_failure column type restriction _).mpr ?_⟩
        rw [found]
        rfl
  · rintro set rfl conforms order keeps error
    have each : ∀ operator ∈ set.toList, ∀ value ∈ operator.operands,
        value.conformsTo type = true := fun operator member value given =>
      conforms value (List.mem_flatMap_of_mem member given)
    have form := set.ofJson_form (fun operator member value given =>
      value.storable_of_conforms type (each operator member value given)) order keeps
    have rejected : OperatorSet.ofJson (set.toJson.arranged order) = .error error ↔
        ∃ fault, error = .malformed fault ∧ (Restriction.operators set).check column type =
          .error (.invalidCondition column fault) := by
      simp only [check_malformed, fault?, set.fault?_of_conforms type each, form]
      cases OperatorSet.ofList set.toList <;> simp [Except.mapError, eq_comm]
    refine ⟨rejected, ?_⟩
    rw [ofJson_operators set order keeps, map_failure]
    exact rejected

def boundedSet : OperatorSet :=
  ⟨[.compare .greater (.int 3), .oneOf [.int 4, .float ⟨0x4014000000000000⟩]], by decide⟩

/-- The list of values comes first, in the form of an array. -/
def boundedTree : Json :=
  .object [
    ("value", .array [
      .array [.text "in", .array [.array [.text "int", .int 4], .array [.text "float", .int 5]]],
      .object [("operand", .array [.text "int", .int 3]), ("op", .text "gt")]]),
    ("kind", .text "operators")]

def lateEmptyList : OperatorSet :=
  ⟨[.compare .greater (.int 3), .oneOf []], by decide⟩

theorem bounded_agree :
    (Restriction.operators boundedSet).check "id" .number = .ok () ∧
    ReadsBack toJson ofJson (.operators boundedSet) ∧
    ofJson boundedTree = .ok (.operators boundedSet) ∧
    (∃ received, (Restriction.operators boundedSet).check "name" .string =
      .error (.typeMismatch "name" .string received)) ∧
    (Restriction.operators lateEmptyList).check "id" .number =
      .error (.invalidCondition "id" .emptyList) ∧
    OperatorSet.ofJson (lateEmptyList.toJson.arranged inKeyOrder) =
      .error (.malformed .emptyList) ∧
    ofJson ((Restriction.operators .empty).toJson.arranged id) =
      .error (.malformed .noOperators) := by
  have valid : (Restriction.operators boundedSet).check "id" .number = .ok () := rfl
  have read : ofJson boundedTree = .ok (.operators boundedSet) := rfl
  have late : (Restriction.operators lateEmptyList).check "id" .number =
    .error (.invalidCondition "id" .emptyList) := rfl
  have missing : (Restriction.operators .empty).check "id" .number =
    .error (.invalidCondition "id" .noOperators) := rfl
  have mismatch := ((malformed_agree (.operators boundedSet) "name" .string).2.1 boundedTree
    read).resolve_left (by decide)
  have lateRejected := ((malformed_agree (.operators lateEmptyList) "id" .number).2.2 _ rfl
    (by decide) inKeyOrder keepsMembers_inKeyOrder (.malformed .emptyList)).1
  have missingRejected := ((malformed_agree (.operators .empty) "id" .number).2.2 _ rfl
    (by decide) id keepsMembers_id (.malformed .noOperators)).2
  exact ⟨valid, (malformed_agree _ "id" .number).1 valid, read, mismatch, late,
    lateRejected.mpr ⟨_, rfl, late⟩, missingRejected.mpr ⟨_, rfl, missing⟩⟩

end Restriction

end TypedSelect
