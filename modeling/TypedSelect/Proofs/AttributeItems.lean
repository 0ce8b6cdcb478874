import TypedSelect.Proofs.DerivedColumns
import TypedSelect.Proofs.FirstFailing

/-! The column attributes of a field say what their items say, taken in order as one list: the last
name and the last type count, and a skip wherever it stands, unless items are at fault, of which
the first decides. How the items are divided among attributes makes no difference. -/
namespace TypedSelect

namespace AttributeItem

/-- What is wrong with an item of a column attribute: a skip has a value, a name or a type has none
or one that is not a text, or the key is none of these. -/
@[mk_iff]
inductive Fault (item : AttributeItem) : DeclarationError → Prop
  | skipValue (key : item.key = "skip") (given : item.value ≠ none) :
    Fault item (.malformed (.valueGiven item.key))
  | noValue (key : item.key = "name" ∨ item.key = "type") (absent : item.value = none) :
    Fault item (.malformed (.noValue item.key))
  | notText (key : item.key = "name" ∨ item.key = "type") (other : item.value = some .other) :
    Fault item (.malformed (.notText item.key))
  | unsupported (key : item.key ∉ ["skip", "name", "type"]) :
    Fault item (.rejected .unsupportedAttribute)

def Sound (item : AttributeItem) : Prop :=
  ∀ error, ¬ item.Fault error

end AttributeItem

namespace ColumnSettings

/-- Whether an item is taken does not depend on the items before it. -/
theorem addItem_failure (settings : ColumnSettings) (item : AttributeItem)
    (error : DeclarationError) :
    settings.addItem item = .error error ↔ item.Fault error := by
  rw [AttributeItem.fault_iff]
  unfold addItem
  split
  · rename_i skip
    cases item.value <;> simp [skip, eq_comm]
  · rename_i name
    rw [map_failure, item.text_failure]
    simp [name]
  · rename_i type
    rw [map_failure, item.text_failure]
    simp [type]
  · rename_i notSkip notName notType
    have apart : item.key ∉ ["skip", "name", "type"] := by
      simpa using ⟨notSkip, notName, notType⟩
    simp only [List.mem_cons, List.not_mem_nil, or_false, not_or] at apart
    simp [apart, eq_comm]

theorem addItem_taken (settings : ColumnSettings) (item : AttributeItem) :
    (∃ next, settings.addItem item = .ok next) ↔ item.Sound := by
  constructor
  · rintro ⟨next, added⟩ error fault
    rw [← addItem_failure settings, added] at fault
    cases fault
  · intro sound
    cases added : settings.addItem item with
    | ok next => exact ⟨next, rfl⟩
    | error error => exact absurd ((addItem_failure settings item error).mp added) (sound error)

instance : DecidablePred AttributeItem.Sound := fun item =>
  match added : none.addItem item with
  | .ok next => isTrue ((addItem_taken none item).mp ⟨next, added⟩)
  | .error error => isFalse fun sound => sound error ((addItem_failure none item error).mp added)

theorem addItems_taken (items : List AttributeItem) (settings : ColumnSettings) :
    (∃ last, items.foldlM addItem settings = .ok last) ↔ ∀ item ∈ items, item.Sound := by
  induction items generalizing settings with
  | nil => simp [pure, Except.pure]
  | cons item rest ih =>
    simp only [List.foldlM_cons, bind_success, List.forall_mem_cons]
    constructor
    · rintro ⟨last, next, added, folded⟩
      exact ⟨(addItem_taken settings item).mp ⟨next, added⟩, (ih next).mp ⟨last, folded⟩⟩
    · rintro ⟨sound, others⟩
      obtain ⟨next, added⟩ := (addItem_taken settings item).mpr sound
      obtain ⟨last, folded⟩ := (ih next).mpr others
      exact ⟨last, next, added, folded⟩

theorem addItems_ok (items : List AttributeItem) (settings : ColumnSettings) :
    items.foldlM addItem none = .ok settings ↔
      (∀ item ∈ items, item.Sound) ∧ settings = settled items := by
  constructor
  · intro folded
    exact ⟨(addItems_taken items none).mp ⟨settings, folded⟩,
      addItems_settled [] items settings folded⟩
  · rintro ⟨sound, rfl⟩
    obtain ⟨last, folded⟩ := (addItems_taken items none).mpr sound
    rw [folded, addItems_settled [] items last folded, List.nil_append]

theorem addItems_failure (items : List AttributeItem) (error : DeclarationError) :
    items.foldlM addItem none = .error error ↔
      ∃ item, FirstFailing AttributeItem.Sound items item ∧ item.Fault error := by
  rw [foldlM_failure]
  constructor
  · rintro ⟨before, item, after, settings, split, folded, failed⟩
    have fault := (addItem_failure settings item error).mp failed
    have sound := (addItems_taken before none).mp ⟨settings, folded⟩
    exact ⟨item, ⟨before, after, split, sound, fun passes => passes error fault⟩, fault⟩
  · rintro ⟨item, ⟨before, after, split, sound, _⟩, fault⟩
    obtain ⟨settings, folded⟩ := (addItems_taken before none).mpr sound
    exact ⟨before, item, after, settings, split, folded,
      (addItem_failure settings item error).mpr fault⟩

theorem addAttribute_other (settings : ColumnSettings) (attr : Attribute)
    (other : attr.path ≠ "column") : settings.addAttribute attr = .ok settings :=
  if_neg other

theorem addAttributes_listed (attributes : List Attribute) (settings : ColumnSettings)
    (listed : ∀ attr ∈ attributes, attr.Listed) :
    attributes.foldlM addAttribute settings =
      (attributes.flatMap (·.columnItems)).foldlM addItem settings := by
  induction attributes generalizing settings with
  | nil => rfl
  | cons attr rest ih =>
    obtain ⟨first, others⟩ := List.forall_mem_cons.mp listed
    rw [List.foldlM_cons, List.flatMap_cons, List.foldlM_append, addAttribute_listed _ _ first]
    exact congrArg _ (funext fun next => ih next others)

theorem ofAttributes_listed (attributes : List Attribute)
    (listed : ∀ attr ∈ attributes, attr.Listed) :
    ofAttributes attributes = (attributes.flatMap (·.columnItems)).foldlM addItem none :=
  addAttributes_listed attributes none listed

theorem addAttributes_columns (attributes : List Attribute) (settings : ColumnSettings) :
    (attributes.filter (·.path = "column")).foldlM addAttribute settings =
      attributes.foldlM addAttribute settings := by
  induction attributes generalizing settings with
  | nil => rfl
  | cons attr rest ih =>
    by_cases column : attr.path = "column"
    · rw [List.filter_cons_of_pos (by simpa using column), List.foldlM_cons, List.foldlM_cons]
      exact congrArg _ (funext ih)
    · rw [List.filter_cons_of_neg (by simpa using column), List.foldlM_cons,
        addAttribute_other settings attr column]
      exact ih settings

/-- Sound items settle a column, and otherwise the first that is at fault decides the error. -/
structure DecidedBy (items : List AttributeItem)
    (outcome : Except DeclarationError ColumnSettings) : Prop where
  settles : ∀ settings, outcome = .ok settings ↔
    (∀ item ∈ items, item.Sound) ∧ settings = settled items
  fails : ∀ error, outcome = .error error ↔
    ∃ item, FirstFailing AttributeItem.Sound items item ∧ item.Fault error

/-- Column attributes that list items are decided by all these items in order, however they are
divided, and attributes of other names may be left out. -/
theorem items_decide :
    (∀ attributes : List Attribute, (∀ attr ∈ attributes, attr.Listed) →
      DecidedBy (attributes.flatMap (·.columnItems)) (ofAttributes attributes)) ∧
    (∀ first second : List Attribute, (∀ attr ∈ first, attr.Listed) →
      (∀ attr ∈ second, attr.Listed) →
      first.flatMap (·.columnItems) = second.flatMap (·.columnItems) →
        ofAttributes first = ofAttributes second) ∧
    ∀ attributes : List Attribute,
      ofAttributes (attributes.filter (·.path = "column")) = ofAttributes attributes := by
  refine ⟨?_, ?_, fun attributes => addAttributes_columns attributes none⟩
  · intro attributes listed
    rw [ofAttributes_listed attributes listed]
    exact ⟨addItems_ok _, addItems_failure _⟩
  · intro first second firstListed secondListed same
    rw [ofAttributes_listed first firstListed, same, ofAttributes_listed second secondListed]

/-- Items in three attributes, among others that say nothing about the column. -/
def sampleDivided : List Attribute := [
  ⟨"column", .items [⟨"name", some (.text "userId")⟩]⟩,
  ⟨"serde", .assigned⟩,
  ⟨"column", .bare⟩,
  ⟨"column", .items [⟨"type", some (.text "date")⟩, ⟨"skip", .none⟩]⟩,
  ⟨"column", .items []⟩,
  ⟨"column", .items [⟨"name", some (.text "ownerId")⟩]⟩]

def sampleJoined : List Attribute := [
  ⟨"column", .items [⟨"name", some (.text "userId")⟩, ⟨"type", some (.text "date")⟩,
    ⟨"skip", .none⟩, ⟨"name", some (.text "ownerId")⟩]⟩]

/-- A skip with a value, then a key that no column attribute has. -/
def sampleFaulty : List Attribute := [
  ⟨"column", .items [⟨"name", some (.text "userId")⟩, ⟨"skip", some .other⟩]⟩,
  ⟨"column", .items [⟨"rename", some (.text "ownerId")⟩]⟩]

theorem sampleItems_decide : (∀ attr ∈ sampleDivided, attr.Listed) ∧
    (∀ attr ∈ sampleJoined, attr.Listed) ∧ (∀ attr ∈ sampleFaulty, attr.Listed) ∧
    ofAttributes sampleDivided = .ok ⟨some "ownerId", some "date", true⟩ ∧
    ofAttributes sampleJoined = ofAttributes sampleDivided ∧
    ofAttributes sampleFaulty = .error (.malformed (.valueGiven "skip")) := by
  have divided : ∀ attr ∈ sampleDivided, attr.Listed := by decide
  have joined : ∀ attr ∈ sampleJoined, attr.Listed := by decide
  have faulty : ∀ attr ∈ sampleFaulty, attr.Listed := by decide
  obtain ⟨decided, same, -⟩ := items_decide
  refine ⟨divided, joined, faulty, ?_, same _ _ joined divided rfl, ?_⟩
  · exact ((decided sampleDivided divided).settles _).mpr ⟨by decide, rfl⟩
  · have first : FirstFailing AttributeItem.Sound (sampleFaulty.flatMap (·.columnItems))
        ⟨"skip", some .other⟩ :=
      ⟨[⟨"name", some (.text "userId")⟩], [⟨"rename", some (.text "ownerId")⟩], rfl, by decide,
        by decide⟩
    exact ((decided sampleFaulty faulty).fails _).mpr ⟨_, first, .skipValue rfl (by decide)⟩

end ColumnSettings

end TypedSelect
