import TypedSelect.Proofs.FiniteNumbers
import TypedSelect.Proofs.MemberOrder
import TypedSelect.Proofs.Projection

/-! What a successful decoding says of the tree. A record or a tagged case gives the decoders of its
parts the members of the tree, found by name or by place; a list gives its items one by one. All
numbers in a part of a tree are among those of the tree. -/
namespace TypedSelect.Json

open Number

/-- The member of a record or of a tagged case: by its name in an object, by the place of its name
in an array. -/
def member? (names : List String) (name : String) : Json → Option Json
  | .object members => members.lookup name
  | .array items => (names.zip items).lookup name
  | _ => none

def items : Json → List Json
  | .array items => items
  | _ => []

mutual

/-- Whether all numbers of a tree are such as JSON documents hold: whole ones have 64 bits, with or
without a sign, and all others are finite. -/
def plainNumbers : Json → Bool
  | .int value => decide (-(2 ^ 63) ≤ value ∧ value < 2 ^ 64)
  | .float value => value.isFinite
  | .array items => plainItems items
  | .object members => plainMembers members
  | .null | .bool _ | .text _ => true

@[inherit_doc plainNumbers]
def plainItems : List Json → Bool
  | [] => true
  | item :: rest => item.plainNumbers && plainItems rest

@[inherit_doc plainNumbers]
def plainMembers : List (String × Json) → Bool
  | [] => true
  | (_, value) :: rest => value.plainNumbers && plainMembers rest

end

theorem required_ok {α : Type} (decode : Json → Except DecodeError α) (given : Option Json)
    (value : α) :
    required decode given = .ok value ↔ ∃ json, given = some json ∧ decode json = .ok value := by
  cases given <;> simp [required]

theorem asList_ok {α : Type} (decode : Json → Except DecodeError α) (json : Json)
    (values : List α) :
    asList decode json = .ok values ↔ json = .array json.items ∧
      List.Forall₂ (fun item value => decode item = .ok value) json.items values := by
  cases json with
  | array items => simp [asList, Json.items, mapM_ok]
  | _ => simp [asList]

theorem tagged_ok (tag content : String) (apart : tag ≠ content) (json : Json) (name : String)
    (given : Option Json) (read : json.tagged tag content = .ok (name, given)) :
    given = json.member? [tag, content] content := by
  unfold tagged at read
  split at read
  · rename_i members
    obtain ⟨_, _, read⟩ := (bind_success _ _ _).mp read
    exact (Prod.mk.inj ((ok_success _ _).mp read)).2
  · rename_i first second
    obtain ⟨_, _, read⟩ := (bind_success _ _ _).mp read
    obtain ⟨_, rfl⟩ := Prod.mk.inj ((ok_success _ _).mp read)
    simp [member?, lookup_cons, apart.symm]
  · cases read

end TypedSelect.Json
