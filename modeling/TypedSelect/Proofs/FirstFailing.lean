/-! The first item of a list that does not pass a check, which is the one that decides the error of a
loop over the list. -/
namespace TypedSelect

/-- The first item of a list that does not pass: all items before it do. -/
def FirstFailing {α : Type} (passes : α → Prop) (items : List α) (item : α) : Prop :=
  ∃ before after, items = before ++ item :: after ∧ (∀ earlier ∈ before, passes earlier) ∧
    ¬ passes item

theorem FirstFailing.failed {α : Type} {passes : α → Prop} {items : List α} {item : α}
    (first : FirstFailing passes items item) : ¬ passes item := by
  obtain ⟨_, _, _, _, failed⟩ := first
  exact failed

theorem firstFailing_cons {α : Type} (passes : α → Prop) (head : α) (rest : List α) (item : α) :
    FirstFailing passes (head :: rest) item ↔
      (¬ passes head ∧ item = head) ∨ (passes head ∧ FirstFailing passes rest item) := by
  constructor
  · rintro ⟨before, after, split, passed, failed⟩
    cases before with
    | nil =>
      obtain ⟨rfl, _⟩ := List.cons.inj split
      exact .inl ⟨failed, rfl⟩
    | cons first before =>
      obtain ⟨rfl, rfl⟩ := List.cons.inj split
      obtain ⟨passedHead, passedRest⟩ := List.forall_mem_cons.mp passed
      exact .inr ⟨passedHead, before, after, rfl, passedRest, failed⟩
  · rintro (⟨failed, rfl⟩ | ⟨passed, before, after, rfl, passedRest, failed⟩)
    · exact ⟨[], rest, rfl, by simp, failed⟩
    · exact ⟨head :: before, after, rfl, List.forall_mem_cons.mpr ⟨passed, passedRest⟩, failed⟩

theorem find?_firstFailing {α : Type} (fails : α → Bool) (passes : α → Prop)
    (failing : ∀ item, fails item = true ↔ ¬ passes item) (items : List α) (item : α) :
    items.find? fails = some item ↔ FirstFailing passes items item := by
  have passing (earlier : α) : (!fails earlier) = true ↔ passes earlier := by
    rw [Bool.not_eq_true', ← Bool.not_eq_true, failing, Classical.not_not]
  rw [List.find?_eq_some_iff_append, failing]
  simp only [passing]
  constructor
  · rintro ⟨failed, before, after, split, passed⟩
    exact ⟨before, after, split, passed, failed⟩
  · rintro ⟨before, after, split, passed, failed⟩
    exact ⟨failed, before, after, split, passed⟩

theorem findSome?_firstFailing {α β : Type} (fault : α → Option β) (passes : α → Prop)
    (faultless : ∀ item, fault item = none ↔ passes item) (items : List α) (found : β) :
    items.findSome? fault = some found ↔
      ∃ item, FirstFailing passes items item ∧ fault item = some found := by
  rw [List.findSome?_eq_some_iff]
  constructor
  · rintro ⟨before, item, after, split, given, passed⟩
    have failed : ¬ passes item := by simp [← faultless, given]
    exact ⟨item, ⟨before, after, split,
      fun earlier member => (faultless earlier).mp (passed earlier member), failed⟩, given⟩
  · rintro ⟨item, ⟨before, after, split, passed, _⟩, given⟩
    exact ⟨before, item, after, split, given,
      fun earlier member => (faultless earlier).mpr (passed earlier member)⟩

end TypedSelect
