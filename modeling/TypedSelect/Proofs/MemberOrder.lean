import TypedSelect.Form.Decode

/-! The order of an object's members. A tree says the same with its members in any other order in
which every key still leads to its value, the order of the keys among them: reading looks members
up by their keys. -/
namespace TypedSelect.Json

/-- A way to order members in which every key of an object still leads to its value. -/
structure KeepsMembers (order : List (String × Json) → List (String × Json)) : Prop where
  lookup : ∀ members, (members.map Prod.fst).Nodup →
    ∀ key, (order members).lookup key = members.lookup key

mutual

/-- The same tree with the members of every object in another order. -/
def arranged (order : List (String × Json) → List (String × Json)) : Json → Json
  | .array items => .array (arrangedItems order items)
  | .object members => .object (order (arrangedMembers order members))
  | leaf => leaf

@[inherit_doc arranged]
def arrangedItems (order : List (String × Json) → List (String × Json)) : List Json → List Json
  | [] => []
  | item :: rest => item.arranged order :: arrangedItems order rest

@[inherit_doc arranged]
def arrangedMembers (order : List (String × Json) → List (String × Json)) :
    List (String × Json) → List (String × Json)
  | [] => []
  | (key, value) :: rest => (key, value.arranged order) :: arrangedMembers order rest

end

mutual

theorem sorted_eq_arranged (json : Json) : json.sorted = json.arranged inKeyOrder := by
  match json with
  | .array items => rw [sorted, arranged, sortedItems_eq_arranged items]
  | .object members => rw [sorted, arranged, sortedMembers_eq_arranged members]
  | .null | .bool _ | .int _ | .float _ | .text _ => simp only [sorted, arranged]

theorem sortedItems_eq_arranged (items : List Json) :
    sortedItems items = arrangedItems inKeyOrder items := by
  match items with
  | [] => rfl
  | item :: rest =>
    rw [sortedItems, arrangedItems, sorted_eq_arranged item, sortedItems_eq_arranged rest]

theorem sortedMembers_eq_arranged (members : List (String × Json)) :
    sortedMembers members = arrangedMembers inKeyOrder members := by
  match members with
  | [] => rfl
  | (key, value) :: rest =>
    rw [sortedMembers, arrangedMembers, sorted_eq_arranged value, sortedMembers_eq_arranged rest]

end

theorem lookup_cons (key other : String) (value : Json) (members : List (String × Json)) :
    ((other, value) :: members).lookup key =
      if key = other then some value else members.lookup key := by
  rw [List.lookup_cons]
  by_cases same : key = other
  · rw [if_pos same, beq_iff_eq.mpr same]
  · rw [if_neg same, beq_eq_false_iff_ne.mpr same]

theorem lookup_absent (members : List (String × Json)) (key : String)
    (absent : key ∉ members.map Prod.fst) : members.lookup key = none := by
  rw [List.lookup_eq_none_iff]
  intro member inside
  rw [bne_iff_ne]
  exact fun same => absent (same ▸ List.mem_map_of_mem inside)

theorem lookup_setMember (key other : String) (value : Json) (members : List (String × Json)) :
    (setMember key value members).lookup other =
      if other = key then some value else members.lookup other := by
  induction members with
  | nil => rw [setMember, lookup_cons]
  | cons member rest ih =>
    obtain ⟨first, held⟩ := member
    unfold setMember
    split
    · rename_i before
      have apart : first ≠ key := fun same => String.lt_irrefl key (same ▸ before)
      rw [lookup_cons, lookup_cons, ih]
      by_cases here : other = first
      · rw [if_pos here, if_pos here, if_neg (here ▸ apart)]
      · rw [if_neg here, if_neg here]
    · rename_i notBefore
      split
      · rw [lookup_cons]
      · rename_i notAfter
        have same : first = key :=
          String.le_antisymm (String.not_lt.mp notAfter) (String.not_lt.mp notBefore)
        rw [lookup_cons, lookup_cons, same]
        by_cases here : other = key
        · rw [if_pos here, if_pos here]
        · rw [if_neg here, if_neg here, if_neg here]

theorem lookup_setMembers (members kept : List (String × Json)) (key : String)
    (distinct : (members.map Prod.fst).Nodup) :
    (members.foldl (fun kept (key, value) => setMember key value kept) kept).lookup key =
      (members.lookup key).or (kept.lookup key) := by
  induction members generalizing kept with
  | nil => rfl
  | cons member rest ih =>
    obtain ⟨other, value⟩ := member
    rw [List.map_cons, List.nodup_cons] at distinct
    rw [List.foldl_cons, ih (setMember other value kept) distinct.2, lookup_setMember, lookup_cons]
    by_cases same : key = other
    · rw [if_pos same, if_pos same, lookup_absent rest key (same ▸ distinct.1)]
      rfl
    · rw [if_neg same, if_neg same]

theorem keepsMembers_inKeyOrder : KeepsMembers inKeyOrder where
  lookup members distinct key := by
    rw [inKeyOrder, lookup_setMembers members [] key distinct]
    exact Option.or_none

theorem keepsMembers_id : KeepsMembers id where
  lookup _ _ _ := rfl

variable {order : List (String × Json) → List (String × Json)}

theorem arrangedItems_eq_map (items : List Json) :
    arrangedItems order items = items.map (arranged order) := by
  induction items with
  | nil => rfl
  | cons item rest ih => rw [arrangedItems, ih, List.map_cons]

theorem keys_arrangedMembers (members : List (String × Json)) :
    (arrangedMembers order members).map Prod.fst = members.map Prod.fst := by
  induction members with
  | nil => rfl
  | cons member rest ih =>
    obtain ⟨key, value⟩ := member
    rw [arrangedMembers, List.map_cons, List.map_cons, ih]

theorem lookup_arrangedMembers (members : List (String × Json)) (key : String) :
    (arrangedMembers order members).lookup key = (members.lookup key).map (arranged order) := by
  induction members with
  | nil => rfl
  | cons member rest ih =>
    obtain ⟨other, value⟩ := member
    rw [arrangedMembers, lookup_cons, lookup_cons, ih]
    split <;> rfl

theorem lookup_arranged (keeps : KeepsMembers order) (members : List (String × Json))
    (distinct : (members.map Prod.fst).Nodup) (key : String) :
    (order (arrangedMembers order members)).lookup key =
      (members.lookup key).map (arranged order) := by
  rw [← keys_arrangedMembers] at distinct
  rw [keeps.lookup _ distinct key, lookup_arrangedMembers]

theorem fields_arranged (keeps : KeepsMembers order) (members : List (String × Json))
    (distinct : (members.map Prod.fst).Nodup) (names : List String) :
    ((Json.object members).arranged order).fields names =
      .ok fun name => (members.lookup name).map (arranged order) := by
  rw [arranged]
  exact congrArg Except.ok (funext (lookup_arranged keeps members distinct))

theorem tagged_arranged (keeps : KeepsMembers order) (members : List (String × Json))
    (distinct : (members.map Prod.fst).Nodup) (tag content name : String)
    (named : members.lookup tag = some (.text name)) :
    ((Json.object members).arranged order).tagged tag content =
      .ok (name, (members.lookup content).map (arranged order)) := by
  rw [arranged, tagged, lookup_arranged keeps members distinct,
    lookup_arranged keeps members distinct, named]
  rfl

theorem pair_arranged (keeps : KeepsMembers order) (tag content name : String) (value : Json)
    (apart : tag ≠ content) :
    ((Json.object [(tag, .text name), (content, value)]).arranged order).tagged tag content =
      .ok (name, some (value.arranged order)) := by
  have distinct : ([(tag, Json.text name), (content, value)].map Prod.fst).Nodup := by
    simp [apart]
  rw [tagged_arranged keeps _ distinct tag content name (by simp)]
  simp [lookup_cons, apart.symm]

end TypedSelect.Json
