import Mathlib.Data.List.Induction

/-! Lists of which only the first element of each key is kept. The keys that remain are all the
keys there were, each once, and a lookup by key finds what it found before. -/
namespace TypedSelect

variable {α κ : Type} [DecidableEq κ]

/-- The elements whose key no earlier element has. -/
def firstOfEach (key : α → κ) (items : List α) : List α :=
  items.eraseDupsBy fun later earlier => key later == key earlier

theorem firstOfEach_nil (key : α → κ) : firstOfEach key [] = [] := rfl

theorem firstOfEach_cons (key : α → κ) (item : α) (items : List α) :
    firstOfEach key (item :: items) =
      item :: firstOfEach key (items.filter fun other => decide (key other ≠ key item)) := by
  unfold firstOfEach
  rw [List.eraseDupsBy_cons]
  simp

theorem firstOfEach_id (keys : List κ) : firstOfEach id keys = keys.eraseDups := rfl

theorem firstOfEach_append (key : α → κ) (items more : List α) :
    firstOfEach key (items ++ more) = firstOfEach key items ++
      firstOfEach key (more.filter fun other => decide (key other ∉ items.map key)) := by
  match items with
  | [] =>
    have kept : (more.filter fun other => decide (key other ∉ [].map key)) = more :=
      List.filter_eq_self.mpr (by simp)
    rw [kept]
    rfl
  | item :: items =>
    rw [List.cons_append, firstOfEach_cons, firstOfEach_cons, List.filter_append,
      firstOfEach_append key (items.filter _), List.filter_filter, List.cons_append]
    congr 3
    apply List.filter_congr
    intro other _
    by_cases same : key other = key item
    · simp [same]
    · simp [same]
      grind
termination_by items.length
decreasing_by exact Nat.lt_succ_of_le (List.length_filter_le _ _)

theorem firstOfEach_concat (key : α → κ) (items : List α) (item : α) :
    firstOfEach key (items ++ [item]) =
      if key item ∈ items.map key then firstOfEach key items
      else firstOfEach key items ++ [item] := by
  rw [firstOfEach_append]
  by_cases seen : key item ∈ items.map key
  · rw [if_pos seen, List.filter_cons_of_neg (by simpa using seen), List.filter_nil,
      firstOfEach_nil, List.append_nil]
  · rw [if_neg seen, List.filter_cons_of_pos (by simpa using seen), List.filter_nil,
      firstOfEach_cons, List.filter_nil, firstOfEach_nil]

theorem map_firstOfEach (key : α → κ) (items : List α) :
    (firstOfEach key items).map key = (items.map key).eraseDups := by
  induction items using List.reverseRecOn with
  | nil => rfl
  | append_singleton items item ih =>
    rw [List.map_append, List.map_singleton, ← firstOfEach_id, firstOfEach_concat,
      firstOfEach_concat, firstOfEach_id, ← ih, List.map_id, id]
    split
    · rfl
    · rw [List.map_append, List.map_singleton]

theorem nodup_eraseDups (keys : List κ) : keys.eraseDups.Nodup := by
  induction keys using List.reverseRecOn with
  | nil => exact List.nodup_nil
  | append_singleton keys key ih =>
    rw [← firstOfEach_id, firstOfEach_concat, firstOfEach_id, List.map_id, id]
    split
    · exact ih
    · rename_i fresh
      refine List.nodup_append.mpr ⟨ih, by simp, ?_⟩
      rintro earlier member last inside rfl
      rw [List.mem_singleton.mp inside, List.mem_eraseDups] at member
      exact fresh member

theorem nodup_map_firstOfEach (key : α → κ) (items : List α) :
    ((firstOfEach key items).map key).Nodup := by
  rw [map_firstOfEach]
  exact nodup_eraseDups _

theorem firstOfEach_of_nodup (key : α → κ) (items : List α) (distinct : (items.map key).Nodup) :
    firstOfEach key items = items := by
  induction items using List.reverseRecOn with
  | nil => rfl
  | append_singleton items item ih =>
    rw [List.map_append, List.map_singleton] at distinct
    have apart := (List.nodup_append.mp distinct).2.2
    have fresh : key item ∉ items.map key := fun seen => apart _ seen _ (by simp) rfl
    rw [firstOfEach_concat, if_neg fresh, ih (distinct.sublist (List.sublist_append_left _ _))]

theorem find?_firstOfEach (key : α → κ) (items : List α) (wanted : κ) :
    (firstOfEach key items).find? (key · == wanted) = items.find? (key · == wanted) := by
  induction items using List.reverseRecOn with
  | nil => rfl
  | append_singleton items item ih =>
    rw [firstOfEach_concat, List.find?_append]
    split
    · rename_i seen
      rw [ih]
      by_cases same : key item = wanted
      · obtain ⟨earlier, member, equal⟩ := List.mem_map.mp seen
        have found : (items.find? (key · == wanted)).isSome := by
          rw [List.find?_isSome]
          exact ⟨earlier, member, by simp [equal, same]⟩
        exact (Option.or_of_isSome found).symm
      · simp [same]
    · rw [List.find?_append, ih]

theorem find?_of_nodup (key : α → κ) (items : List α) (distinct : (items.map key).Nodup)
    (item : α) (member : item ∈ items) : items.find? (key · == key item) = some item := by
  induction items with
  | nil => simp at member
  | cons first rest ih =>
    rw [List.map_cons, List.nodup_cons] at distinct
    rcases List.mem_cons.mp member with rfl | inside
    · simp
    · have apart : key first ≠ key item := by
        intro same
        exact distinct.1 (same ▸ List.mem_map_of_mem inside)
      rw [List.find?_cons_of_neg (by simpa using apart)]
      exact ih distinct.2 inside

end TypedSelect
