import Mathlib.Data.List.Nodup
import TypedSelect.Proofs.FirstOfEach

/-! Lists of which the last element of each key counts. What a loop keeps that puts every element in
place of the one with its key is the last element of each key. -/
namespace TypedSelect

variable {α κ : Type} [DecidableEq κ]

def lastWith? (key : α → κ) (wanted : κ) (items : List α) : Option α :=
  (items.filter fun item => key item = wanted).getLast?

theorem lastWith?_concat (key : α → κ) (wanted : κ) (items : List α) (item : α) :
    lastWith? key wanted (items ++ [item]) =
      if key item = wanted then some item else lastWith? key wanted items := by
  unfold lastWith?
  rw [List.filter_append]
  by_cases same : key item = wanted
  · simp [same]
  · simp [same]

theorem lastWith?_spec (key : α → κ) (wanted : κ) (items : List α) (item : α)
    (last : lastWith? key wanted items = some item) : item ∈ items ∧ key item = wanted := by
  simpa using List.mem_filter.mp (List.mem_of_getLast? last)

theorem lastWith?_isSome (key : α → κ) (wanted : κ) (items : List α) :
    (lastWith? key wanted items).isSome ↔ wanted ∈ items.map key := by
  unfold lastWith?
  rw [List.getLast?_isSome, ne_eq, List.filter_eq_nil_iff]
  simp

theorem lastWith?_of_nodup (key : α → κ) (items : List α) (distinct : (items.map key).Nodup)
    (wanted : κ) (item : α) :
    lastWith? key wanted items = some item ↔ item ∈ items ∧ key item = wanted := by
  refine ⟨lastWith?_spec key wanted items item, ?_⟩
  rintro ⟨member, rfl⟩
  have found := (lastWith?_isSome key (key item) items).mpr (List.mem_map_of_mem member)
  obtain ⟨last, given⟩ := Option.isSome_iff_exists.mp found
  obtain ⟨inside, same⟩ := lastWith?_spec key _ items last given
  rw [given, List.inj_on_of_nodup_map distinct inside member same]

/-- Of each key the kept elements have the last one, and nothing else. -/
def KeepsLast (key : α → κ) (items kept : List α) : Prop :=
  ∀ item, item ∈ kept ↔ lastWith? key (key item) items = some item

namespace KeepsLast

theorem concat (key : α → κ) (items kept next : List α) (item : α)
    (keeps : KeepsLast key items kept)
    (replaced : ∀ other, other ∈ next ↔ if key item = key other then other = item
      else other ∈ kept) : KeepsLast key (items ++ [item]) next := by
  intro other
  rw [replaced, lastWith?_concat]
  split
  · rw [Option.some.injEq, eq_comm]
  · exact keeps other

theorem keys (key : α → κ) (items kept : List α) (keeps : KeepsLast key items kept) (wanted : κ) :
    wanted ∈ kept.map key ↔ wanted ∈ items.map key := by
  rw [← lastWith?_isSome key wanted items, Option.isSome_iff_exists, List.mem_map]
  constructor
  · rintro ⟨item, member, rfl⟩
    exact ⟨item, (keeps item).mp member⟩
  · rintro ⟨item, last⟩
    obtain ⟨_, rfl⟩ := lastWith?_spec key wanted items item last
    exact ⟨item, (keeps item).mpr last, rfl⟩

end KeepsLast

/-- The keys of a list in the order in which they first occur, and for each its last element. -/
def lastOfEach (key : α → κ) (items : List α) : List α :=
  (items.map key).eraseDups.filterMap (lastWith? key · items)

theorem eq_lastOfEach (key : α → κ) (items kept : List α) (keeps : KeepsLast key items kept)
    (keys : kept.map key = (items.map key).eraseDups) : kept = lastOfEach key items := by
  have last : ∀ item ∈ kept, lastWith? key (key item) items = some item :=
    fun item member => (keeps item).mp member
  unfold lastOfEach
  rw [← keys, List.filterMap_map]
  exact (List.filterMap_congr last).trans List.filterMap_some |>.symm

theorem keepsLast_lastOfEach (key : α → κ) (items : List α) :
    KeepsLast key items (lastOfEach key items) := by
  intro item
  simp only [lastOfEach, List.mem_filterMap, List.mem_eraseDups]
  constructor
  · rintro ⟨wanted, _, last⟩
    obtain ⟨_, rfl⟩ := lastWith?_spec key wanted items item last
    exact last
  · intro last
    have member := (lastWith?_spec key (key item) items item last).1
    exact ⟨key item, List.mem_map_of_mem member, last⟩

theorem keys_lastOfEach (key : α → κ) (items : List α) :
    (lastOfEach key items).map key = (items.map key).eraseDups := by
  have found : ∀ wanted ∈ (items.map key).eraseDups,
      (lastWith? key wanted items).map key = some wanted := by
    intro wanted member
    have given := (lastWith?_isSome key wanted items).mpr (List.mem_eraseDups.mp member)
    obtain ⟨item, last⟩ := Option.isSome_iff_exists.mp given
    rw [last, Option.map_some, (lastWith?_spec key wanted items item last).2]
  rw [lastOfEach, List.map_filterMap]
  exact (List.filterMap_congr found).trans List.filterMap_some

theorem nodup_keys_lastOfEach (key : α → κ) (items : List α) :
    ((lastOfEach key items).map key).Nodup := by
  rw [keys_lastOfEach]
  exact nodup_eraseDups _

theorem mem_of_mem_lastOfEach (key : α → κ) (items : List α) (item : α)
    (member : item ∈ lastOfEach key items) : item ∈ items :=
  (lastWith?_spec key _ items item ((keepsLast_lastOfEach key items item).mp member)).1

theorem lastOfEach_of_nodup (key : α → κ) (items : List α) (distinct : (items.map key).Nodup) :
    lastOfEach key items = items := by
  refine (eq_lastOfEach key items items (fun item => ?_) ?_).symm
  · simpa using (lastWith?_of_nodup key items distinct (key item) item).symm
  · rw [← firstOfEach_id, firstOfEach_of_nodup id _ (by rwa [List.map_id])]

end TypedSelect
