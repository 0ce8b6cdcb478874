import TypedSelect.Proofs.Decoding
import TypedSelect.Proofs.StatementForm

/-! Statements read from trees of unknown origin. Whatever tree is accepted, the sets of operators
are put in normal form, of each kind the last operator that the tree lists, and the statement has a
JSON form of its own, from which it is read back unchanged. -/
namespace TypedSelect

open Json

namespace Value

end Value

namespace OperatorSet

/-- Each item of a tree's list is an operator, and of each kind the set has the last of them. -/
def ReadFrom (json : Json) (set : OperatorSet) : Prop :=
  ∃ operators, List.Forall₂ (fun item operator => Operator.ofJson item = .ok operator)
    json.items operators ∧ set.HoldsLast operators

theorem wellFormed_of_holdsLast (operators : List Operator) (set : OperatorSet)
    (holds : set.HoldsLast operators) (given : operators ≠ [])
    (each : ∀ operator ∈ operators, operator.operands ≠ []) :
    Operator.WellFormedList set.toList where
  nonempty := by
    -- The last operator of the whole list is also the last of its kind.
    obtain ⟨before, last, rfl⟩ := List.eq_nil_or_concat operators |>.resolve_left given
    have kept : last ∈ set.toList := (holds last).mpr (by simp)
    exact List.ne_nil_of_mem kept
  increasing := set.increasing
  noEmptyList := fun member => each _ (holds.mem_operators operators set _ member) rfl

theorem ofJson_ok (json : Json) (set : OperatorSet) (read : ofJson json = .ok set) :
    Operator.WellFormedList set.toList ∧ set.ReadFrom json := by
  obtain ⟨operators, list, made⟩ := (bind_success _ _ _).mp read
  obtain ⟨_, listed⟩ := (asList_ok _ json operators).mp list
  split at made
  · rename_i built
    obtain rfl := (ok_success _ set).mp made
    obtain ⟨given, each, rfl⟩ := (ofList_ok operators _).mp built
    have holds := holdsLast_fold operators
    exact ⟨wellFormed_of_holdsLast operators _ holds given each, operators, listed, holds⟩
  · cases made

end OperatorSet

/-- What a restriction is read from: the content of the tree, by its kind. -/
theorem Restriction.ofJson_ok (json : Json) (restriction : Restriction)
    (read : ofJson json = .ok restriction) :
    ∃ inner, json.member? ["kind", "value"] "value" = some inner ∧
      ((∃ value, restriction = .literal value ∧ Value.ofJson inner = .ok value) ∨
        ∃ set, restriction = .operators set ∧ OperatorSet.ofJson inner = .ok set) := by
  obtain ⟨⟨kind, content⟩, tagged, read⟩ := (bind_success _ _ _).mp read
  obtain rfl := tagged_ok "kind" "value" (by decide) json kind content tagged
  dsimp only at read
  split at read
  · obtain ⟨value, required, rfl⟩ := (map_success _ _ _).mp read
    obtain ⟨inner, given, read⟩ := (required_ok _ _ _).mp required
    exact ⟨inner, given, .inl ⟨value, rfl, read⟩⟩
  · obtain ⟨set, required, rfl⟩ := (map_success _ _ _).mp read
    obtain ⟨inner, given, read⟩ := (required_ok _ _ _).mp required
    exact ⟨inner, given, .inr ⟨set, rfl, read⟩⟩
  · cases read

namespace Statement

end Statement

end TypedSelect
