/-! Insertion into lists in strict order of a key. The place of a key is found by binary search:
an item takes the place of the one with its key, or comes between the lower and the higher ones. -/
namespace TypedSelect

/-- Where a search has ended: at an item with the key, or where such an item is to come. -/
inductive Place where
  | found (index : Nat)
  | missing (index : Nat)
deriving DecidableEq, Repr

variable {α : Type}

/-- Searches the places from `low` up to `high`, halving them at every item looked at. -/
@[semireducible]
def placeBetween (key : α → Nat) (wanted : Nat) (items : List α) (low high : Nat)
    (inside : high ≤ items.length) : Place :=
  if nonempty : low < high then
    let middle := (low + high) / 2
    have bound : middle < items.length := by omega
    if key items[middle] = wanted then .found middle
    else if key items[middle] < wanted then placeBetween key wanted items (middle + 1) high inside
    else placeBetween key wanted items low middle (by omega)
  else .missing low
termination_by high - low

def placeOf (key : α → Nat) (wanted : Nat) (items : List α) : Place :=
  placeBetween key wanted items 0 items.length (Nat.le_refl _)

/-- The list with an item added, in place of one with its key. -/
def putInOrder (key : α → Nat) (items : List α) (added : α) : List α :=
  match placeOf key (key added) items with
  | .found index => items.set index added
  | .missing index => items.insertIdx index added

/-- What the place of a key says of a list in order of keys. -/
def Place.Fits (key : α → Nat) (wanted : Nat) (items : List α) : Place → Prop
  | .found index => ∃ inside : index < items.length, key items[index] = wanted
  | .missing index => index ≤ items.length ∧ (∀ item ∈ items.take index, key item < wanted) ∧
      ∀ item ∈ items.drop index, wanted < key item

theorem placeBetween_fits (key : α → Nat) (wanted : Nat) (items : List α)
    (ordered : (items.map key).Pairwise (· < ·)) (low high : Nat) (inside : high ≤ items.length)
    (window : low ≤ high) (lower : ∀ item ∈ items.take low, key item < wanted)
    (higher : ∀ item ∈ items.drop high, wanted < key item) :
    (placeBetween key wanted items low high inside).Fits key wanted items := by
  have increasing := List.pairwise_iff_getElem.mp (List.pairwise_map.mp ordered)
  -- Along the search, which keeps all items before its window lower and all after it higher.
  fun_induction placeBetween key wanted items low high inside with
  | case1 low high inside nonempty middle bound here => exact ⟨bound, here⟩
  | case2 low high inside nonempty middle bound elsewhere below ih =>
    refine ih (by omega) (fun item member => ?_) higher
    obtain ⟨index, before, rfl⟩ := List.mem_take_iff_getElem.mp member
    rcases Nat.lt_or_eq_of_le (by omega : index ≤ middle) with earlier | rfl
    · exact Nat.lt_trans (increasing index middle (by omega) bound earlier) below
    · exact below
  | case3 low high inside nonempty middle bound elsewhere notBelow ih =>
    have above : wanted < key items[middle] := by omega
    refine ih (by omega) lower fun item member => ?_
    obtain ⟨distance, within, rfl⟩ := List.mem_drop_iff_getElem.mp member
    rcases Nat.eq_zero_or_pos distance with rfl | later
    · exact above
    · exact Nat.lt_trans above (increasing middle _ bound (by omega) (by omega))
  | case4 low high inside empty =>
    obtain rfl : low = high := by omega
    exact ⟨inside, lower, higher⟩

theorem placeOf_fits (key : α → Nat) (wanted : Nat) (items : List α)
    (ordered : (items.map key).Pairwise (· < ·)) :
    (placeOf key wanted items).Fits key wanted items :=
  placeBetween_fits key wanted items ordered 0 items.length _ (Nat.zero_le _) (by simp) (by simp)

/-- An item is put between the lower and the higher ones; what stood there has its key. -/
theorem exists_of_putInOrder (key : α → Nat) (items : List α) (added : α)
    (ordered : (items.map key).Pairwise (· < ·)) :
    ∃ lower replaced higher, items = lower ++ replaced ++ higher ∧
      putInOrder key items added = lower ++ added :: higher ∧
      (∀ item ∈ lower, key item < key added) ∧ (∀ item ∈ replaced, key item = key added) ∧
      ∀ item ∈ higher, key added < key item := by
  have fits := placeOf_fits key (key added) items ordered
  unfold putInOrder
  cases place : placeOf key (key added) items with
  | found index =>
    rw [place] at fits
    obtain ⟨inside, same⟩ := fits
    obtain ⟨lower, higher, split, _, put⟩ := @List.exists_of_set _ index added items inside
    have parts := List.pairwise_map.mp ordered
    rw [split, List.pairwise_append, List.pairwise_cons] at parts
    obtain ⟨-, ⟨after, -⟩, before⟩ := parts
    refine ⟨lower, [items[index]], higher, by simpa using split, put, fun item member => ?_,
      by simp [same], fun item member => ?_⟩
    · exact same ▸ before item member _ (.head _)
    · exact same ▸ after item member
  | missing index =>
    rw [place] at fits
    obtain ⟨bound, before, after⟩ := fits
    obtain ⟨lower, higher, rfl, rfl, put⟩ := List.exists_of_modifyTailIdx (List.cons added) bound
    rw [List.take_left] at before
    rw [List.drop_left] at after
    exact ⟨lower, [], higher, by simp, put, before, by simp, after⟩

theorem putInOrder_increasing (key : α → Nat) (items : List α) (added : α)
    (ordered : (items.map key).Pairwise (· < ·)) :
    ((putInOrder key items added).map key).Pairwise (· < ·) := by
  obtain ⟨lower, replaced, higher, rfl, put, before, -, after⟩ :=
    exists_of_putInOrder key items added ordered
  simp only [List.map_append, List.append_assoc, List.pairwise_append] at ordered
  obtain ⟨inLower, ⟨-, inHigher, -⟩, -⟩ := ordered
  rw [put, List.map_append, List.map_cons, List.pairwise_append, List.pairwise_cons]
  refine ⟨inLower, ⟨by simpa using after, inHigher⟩, ?_⟩
  simp only [List.mem_map, List.mem_cons]
  rintro _ ⟨item, member, rfl⟩ _ (rfl | ⟨other, member', rfl⟩)
  · exact before item member
  · exact Nat.lt_trans (before item member) (after other member')

example : [7, 3, 12, 5, 9, 2].foldl (putInOrder (· / 2)) [] = [2, 5, 7, 9, 12] := by decide

end TypedSelect
