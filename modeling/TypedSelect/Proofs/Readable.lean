import Mathlib.Data.List.Basic

/-! Writing that can be read without doubt. Values are written one after another; each is followed
by a text that opens with one of a few marks, and from the whole both what the value says and the
text after it can be told. Sequences, optional parts and lists of readable parts are readable when
the marks in front of them cannot be confused. -/
namespace TypedSelect

def Opens (marks : List String) (text : List Char) : Prop :=
  ∃ mark ∈ marks, mark.toList <+: text

/-- A mark that begins none of some others and that none of them begins. -/
def Apart (mark : String) (marks : List String) : Prop :=
  ∀ other ∈ marks, ¬ mark.toList <+: other.toList ∧ ¬ other.toList <+: mark.toList

instance (mark : String) (marks : List String) : Decidable (Apart mark marks) :=
  inferInstanceAs (Decidable (∀ other ∈ marks, _))

/-- Marks each of which begins with a character outside a class. -/
def Ends (member : Char → Bool) (marks : List String) : Prop :=
  ∀ mark ∈ marks, mark.toList.head?.any (!member ·) = true

instance (member : Char → Bool) (marks : List String) : Decidable (Ends member marks) :=
  inferInstanceAs (Decidable (∀ mark ∈ marks, _))

/-- From a written value and the text after it, which opens with a mark, both what is read off the
value and the text after it can be told. -/
def Readable {α β : Type} (inside : α → Prop) (write : α → List Char) (read : α → β)
    (marks : List String) : Prop :=
  ∀ (first second : α) (rest rest' : List Char), inside first → inside second →
    Opens marks rest → Opens marks rest' → write first ++ rest = write second ++ rest' →
    read first = read second ∧ rest = rest'

theorem opens_self (mark : String) (marks : List String) (text : List Char) :
    Opens (mark :: marks) (mark.toList ++ text) :=
  ⟨mark, List.mem_cons_self, List.prefix_append _ _⟩

theorem opens_more (mark : String) (marks : List String) (text : List Char)
    (opens : Opens marks text) : Opens (mark :: marks) text := by
  obtain ⟨found, member, before⟩ := opens
  exact ⟨found, List.mem_cons_of_mem mark member, before⟩

theorem not_opens_apart (mark : String) (marks : List String) (rest text : List Char)
    (apart : Apart mark marks) (opens : Opens marks rest) : rest ≠ mark.toList ++ text := by
  rintro rfl
  obtain ⟨other, member, before⟩ := opens
  rcases List.prefix_or_prefix_of_prefix before (List.prefix_append _ _) with begins | begins
  · exact (apart other member).2 begins
  · exact (apart other member).1 begins

theorem head_of_opens (member : Char → Bool) (marks : List String) (text : List Char)
    (ends : Ends member marks) (opens : Opens marks text) :
    ∃ c rest, text = c :: rest ∧ member c = false := by
  obtain ⟨mark, listed, rest, rfl⟩ := opens
  have outside := ends mark listed
  cases given : mark.toList with
  | nil => simp [given] at outside
  | cons c tail => exact ⟨c, tail ++ rest, rfl, by simpa [given] using outside⟩

/-- A text that starts inside a class is not the start of one that starts outside it. -/
theorem ne_of_heads (member : Char → Bool) (first rest second : List Char)
    (starts : ∃ c tail, first = c :: tail ∧ member c = true)
    (other : ∃ d tail, second = d :: tail ∧ member d = false) : first ++ rest ≠ second := by
  obtain ⟨c, tail, rfl, inside⟩ := starts
  obtain ⟨d, tail', rfl, outside⟩ := other
  intro same
  rw [(List.cons.inj same).1, outside] at inside
  cases inside

theorem run_split (member : Char → Bool) (first second : List Char) (c d : Char)
    (rest rest' : List Char) (inside : first.all member = true)
    (inside' : second.all member = true) (outside : member c = false)
    (outside' : member d = false) (same : first ++ c :: rest = second ++ d :: rest') :
    first = second ∧ c :: rest = d :: rest' := by
  have taken := congrArg (List.takeWhile member) same
  rw [List.takeWhile_append_of_pos (List.all_eq_true.mp inside),
    List.takeWhile_append_of_pos (List.all_eq_true.mp inside'),
    List.takeWhile_cons_of_neg (by simp [outside]), List.takeWhile_cons_of_neg (by simp [outside']),
    List.append_nil, List.append_nil] at taken
  subst taken
  exact ⟨rfl, List.append_cancel_left same⟩

namespace Readable

variable {α β γ δ : Type}

theorem word (member : Char → Bool) (marks : List String) (ends : Ends member marks) :
    Readable (fun text => text.all member = true) id id marks := by
  intro first second rest rest' inside inside' opens opens' same
  obtain ⟨c, tail, rfl, outside⟩ := head_of_opens member marks rest ends opens
  obtain ⟨d, tail', rfl, outside'⟩ := head_of_opens member marks rest' ends opens'
  exact run_split member first second c d tail tail' inside inside' outside outside' same

theorem part (project : γ → α) {inside : α → Prop} {write : α → List Char} {read : α → β}
    {marks : List String} (readable : Readable inside write read marks) :
    Readable (inside ∘ project) (write ∘ project) (read ∘ project) marks :=
  fun first second => readable (project first) (project second)

theorem marked (mark : String) {inside : α → Prop} {write : α → List Char} {read : α → β}
    {marks : List String} (readable : Readable inside write read marks) :
    Readable inside (fun a => mark.toList ++ write a) read marks := by
  intro first second rest rest' inside inside' opens opens' same
  rw [List.append_assoc, List.append_assoc, List.append_cancel_left_eq] at same
  exact readable first second rest rest' inside inside' opens opens' same

theorem closed (mark : String) {inside : α → Prop} {write : α → List Char} {read : α → β}
    (readable : Readable inside write read [mark]) (marks : List String) :
    Readable inside (fun a => write a ++ mark.toList) read marks := by
  intro first second rest rest' within within' _ _ same
  rw [List.append_assoc, List.append_assoc] at same
  obtain ⟨sameRead, same⟩ := readable first second _ _ within within'
    (opens_self mark [] rest) (opens_self mark [] rest') same
  exact ⟨sameRead, List.append_cancel_left same⟩

theorem append {inside inside' : α → Prop} {write write' : α → List Char} {read : α → β}
    {read' : α → γ} {marks marks' : List String} (readable : Readable inside write read marks)
    (readable' : Readable inside' write' read' marks')
    (follows : ∀ a rest, Opens marks' rest → Opens marks (write' a ++ rest)) :
    Readable (fun a => inside a ∧ inside' a) (fun a => write a ++ write' a)
      (fun a => (read a, read' a)) marks' := by
  intro first second rest rest' within within' opens opens' same
  rw [List.append_assoc, List.append_assoc] at same
  obtain ⟨sameFirst, same⟩ := readable first second _ _ within.1 within'.1
    (follows first rest opens) (follows second rest' opens') same
  obtain ⟨sameSecond, same⟩ := readable' first second rest rest' within.2 within'.2 opens opens' same
  exact ⟨Prod.ext sameFirst sameSecond, same⟩

theorem between (mark : String) {inside inside' : α → Prop} {write write' : α → List Char}
    {read : α → β} {read' : α → γ} {marks : List String}
    (readable : Readable inside write read [mark]) (readable' : Readable inside' write' read' marks) :
    Readable (fun a => inside a ∧ inside' a) (fun a => write a ++ (mark.toList ++ write' a))
      (fun a => (read a, read' a)) marks :=
  readable.append (readable'.marked mark) fun a rest _ =>
    List.append_assoc mark.toList (write' a) rest ▸ opens_self mark [] (write' a ++ rest)

theorem weaken {inside inside' : α → Prop} {write : α → List Char} {read : α → β} {read' : α → γ}
    {marks : List String} (readable : Readable inside write read marks)
    (narrower : ∀ a, inside' a → inside a)
    (coarser : ∀ first second, inside' first → inside' second → read first = read second →
      read' first = read' second) : Readable inside' write read' marks := by
  intro first second rest rest' within within' opens opens' same
  obtain ⟨sameRead, sameRest⟩ := readable first second rest rest' (narrower first within)
    (narrower second within') opens opens' same
  exact ⟨coarser first second within within' sameRead, sameRest⟩

def optionalText (mark : String) (write : α → List Char) : Option α → List Char
  | none => []
  | some a => mark.toList ++ write a

theorem opens_optional (mark : String) (write : α → List Char) (marks : List String)
    (given : Option α) (rest : List Char) (opens : Opens marks rest) :
    Opens (mark :: marks) (optionalText mark write given ++ rest) := by
  cases given with
  | none => exact opens_more mark marks rest opens
  | some a =>
    unfold optionalText
    rw [List.append_assoc]
    exact opens_self mark marks _

theorem optional (mark : String) {inside : α → Prop} {write : α → List Char} {read : α → β}
    {marks : List String} (apart : Apart mark marks)
    (readable : Readable inside write read marks) :
    Readable (fun given => ∀ a ∈ given, inside a) (optionalText mark write) (Option.map read)
      marks := by
  intro first second rest rest' within within' opens opens' same
  cases first with
  | none =>
    cases second with
    | none => exact ⟨rfl, same⟩
    | some b =>
      unfold optionalText at same
      rw [List.append_assoc] at same
      exact absurd same (not_opens_apart mark marks rest _ apart opens)
  | some a =>
    cases second with
    | none =>
      unfold optionalText at same
      rw [List.append_assoc] at same
      exact absurd same.symm (not_opens_apart mark marks rest' _ apart opens')
    | some b =>
      obtain ⟨sameRead, sameRest⟩ := readable.marked mark a b rest rest' (within a rfl)
        (within' b rfl) opens opens' same
      exact ⟨congrArg some sameRead, sameRest⟩

theorem append_optional (mark : String) (project : α → Option δ) {inside : α → Prop}
    {inside' : δ → Prop} {write : α → List Char} {write' : δ → List Char} {read : α → β}
    {read' : δ → γ} {marks : List String} (apart : Apart mark marks)
    (readable : Readable inside write read (mark :: marks))
    (readable' : Readable inside' write' read' marks) :
    Readable (fun a => inside a ∧ ∀ d ∈ project a, inside' d)
      (fun a => write a ++ optionalText mark write' (project a))
      (fun a => (read a, (project a).map read')) marks :=
  readable.append ((optional mark apart readable').part project) fun a rest opens =>
    opens_optional mark write' marks (project a) rest opens

def repeatedText (mark : String) (write : α → List Char) (items : List α) : List Char :=
  items.flatMap fun item => mark.toList ++ write item

theorem opens_repeated (mark : String) (write : α → List Char) (marks : List String)
    (items : List α) (rest : List Char) (opens : Opens marks rest) :
    Opens (mark :: marks) (repeatedText mark write items ++ rest) := by
  cases items with
  | nil => exact opens_more mark marks rest opens
  | cons item items =>
    unfold repeatedText
    rw [List.flatMap_cons, List.append_assoc, List.append_assoc]
    exact opens_self mark marks _

theorem repeated (mark : String) {inside : α → Prop} {write : α → List Char} {read : α → β}
    {marks : List String} (apart : Apart mark marks)
    (readable : Readable inside write read (mark :: marks)) :
    Readable (fun items => ∀ item ∈ items, inside item) (repeatedText mark write)
      (List.map read) marks := by
  intro first
  induction first with
  | nil =>
    intro second rest rest' within within' opens opens' same
    cases second with
    | nil => exact ⟨rfl, same⟩
    | cons item items =>
      unfold repeatedText at same
      rw [List.flatMap_cons, List.append_assoc, List.append_assoc] at same
      exact absurd same (not_opens_apart mark marks rest _ apart opens)
  | cons head tail ih =>
    intro second rest rest' within within' opens opens' same
    cases second with
    | nil =>
      unfold repeatedText at same
      rw [List.flatMap_cons, List.append_assoc, List.append_assoc] at same
      exact absurd same.symm (not_opens_apart mark marks rest' _ apart opens')
    | cons item items =>
      unfold repeatedText at same
      rw [List.flatMap_cons, List.flatMap_cons, List.append_assoc,
        List.append_assoc _ _ rest'] at same
      obtain ⟨headInside, tailInside⟩ := List.forall_mem_cons.mp within
      obtain ⟨itemInside, itemsInside⟩ := List.forall_mem_cons.mp within'
      obtain ⟨sameHead, same⟩ := readable.marked mark head item _ _ headInside itemInside
        (opens_repeated mark write marks tail rest opens)
        (opens_repeated mark write marks items rest' opens') same
      obtain ⟨sameTail, same⟩ := ih items rest rest' tailInside itemsInside opens opens' same
      exact ⟨congrArg₂ List.cons sameHead sameTail, same⟩

theorem append_repeated (mark : String) (project : α → List δ) {inside : α → Prop}
    {inside' : δ → Prop} {write : α → List Char} {write' : δ → List Char} {read : α → β}
    {read' : δ → γ} {marks : List String} (apart : Apart mark marks)
    (readable : Readable inside write read (mark :: marks))
    (readable' : Readable inside' write' read' (mark :: marks)) :
    Readable (fun a => inside a ∧ ∀ item ∈ project a, inside' item)
      (fun a => write a ++ repeatedText mark write' (project a))
      (fun a => (read a, (project a).map read')) marks :=
  readable.append ((repeated mark apart readable').part project) fun a rest opens =>
    opens_repeated mark write' marks (project a) rest opens

def listedText (separator : String) (write : α → List Char) (items : List α) : List Char :=
  separator.toList.intercalate (items.map write)

theorem listedText_cons (separator : String) (write : α → List Char) (item : α)
    (items : List α) :
    listedText separator write (item :: items) = write item ++ repeatedText separator write items := by
  unfold listedText repeatedText
  induction items generalizing item with
  | nil => simp
  | cons next items ih =>
    rw [List.map_cons, List.map_cons, List.intercalate_cons_cons, ← List.map_cons, ih next]
    simp

theorem listedText_map (separator : String) (write : δ → List Char) (part : α → δ)
    (items : List α) :
    listedText separator write (items.map part) = listedText separator (write ∘ part) items := by
  unfold listedText
  rw [List.map_map]

theorem repeatedText_append (mark : String) (write : α → List Char) (items more : List α) :
    repeatedText mark write (items ++ more) =
      repeatedText mark write items ++ repeatedText mark write more :=
  List.flatMap_append

theorem repeatedText_of_listedText (separator : String) (write : α → List Char) (items : List α)
    (given : items ≠ []) :
    separator.toList ++ listedText separator write items = repeatedText separator write items := by
  obtain ⟨item, items, rfl⟩ := List.exists_cons_of_ne_nil given
  rw [listedText_cons, ← List.append_assoc]
  rfl

theorem repeatedText_flatMap (separator : String) (write : α → List Char) (split : δ → List α)
    (groups : List δ) (given : ∀ group ∈ groups, split group ≠ []) :
    repeatedText separator (listedText separator write ∘ split) groups =
      repeatedText separator write (groups.flatMap split) := by
  induction groups with
  | nil => rfl
  | cons group groups ih =>
    obtain ⟨head, tail⟩ := List.forall_mem_cons.mp given
    rw [List.flatMap_cons, repeatedText_append, ← ih tail, ← repeatedText_of_listedText _ _ _ head]
    rfl

/-- Lists within a list, none of them empty, are written as one list. -/
theorem listedText_flatMap (separator : String) (write : α → List Char) (split : δ → List α)
    (groups : List δ) (given : ∀ group ∈ groups, split group ≠ []) :
    listedText separator (listedText separator write ∘ split) groups =
      listedText separator write (groups.flatMap split) := by
  cases groups with
  | nil => rfl
  | cons group groups =>
    have filled : (group :: groups).flatMap split ≠ [] := by
      rw [List.flatMap_cons]
      exact List.append_ne_nil_of_left_ne_nil (given group List.mem_cons_self) _
    apply (List.append_right_inj separator.toList).mp
    rw [repeatedText_of_listedText _ _ _ (List.cons_ne_nil _ _),
      repeatedText_of_listedText _ _ _ filled, repeatedText_flatMap _ _ _ _ given]

theorem listed (separator : String) {inside : α → Prop} {write : α → List Char} {read : α → β}
    {marks : List String} (apart : Apart separator marks)
    (readable : Readable inside write read (separator :: marks)) :
    Readable (fun items => items ≠ [] ∧ ∀ item ∈ items, inside item) (listedText separator write)
      (List.map read) marks := by
  rintro (_ | ⟨head, tail⟩) (_ | ⟨item, items⟩) rest rest' within within' opens opens' same
  · exact absurd rfl within.1
  · exact absurd rfl within.1
  · exact absurd rfl within'.1
  · obtain ⟨headInside, tailInside⟩ := List.forall_mem_cons.mp within.2
    obtain ⟨itemInside, itemsInside⟩ := List.forall_mem_cons.mp within'.2
    rw [listedText_cons, listedText_cons, List.append_assoc, List.append_assoc] at same
    obtain ⟨sameHead, same⟩ := readable head item _ _ headInside itemInside
      (opens_repeated separator write marks tail rest opens)
      (opens_repeated separator write marks items rest' opens') same
    obtain ⟨sameTail, same⟩ := repeated separator apart readable tail items rest rest'
      tailInside itemsInside opens opens' same
    exact ⟨congrArg₂ List.cons sameHead sameTail, same⟩

/-- A list of parts; some other text stands for the empty one. -/
def listText (blank separator : String) (write : α → List Char) (items : List α) : List Char :=
  if items.isEmpty then blank.toList else listedText separator write items

theorem list (blank separator : String) {inside : α → Prop} {write : α → List Char} {read : α → β}
    {marks : List String} (apart : Apart separator marks)
    (readable : Readable inside write read (separator :: marks))
    (distinct : ∀ item rest text, inside item → Opens marks rest →
      blank.toList ++ rest ≠ write item ++ text) :
    Readable (fun items => ∀ item ∈ items, inside item) (listText blank separator write)
      (List.map read) marks := by
  have differ (item : α) (items : List α) (rest rest' : List Char) (within : inside item)
      (opens : Opens marks rest) :
      blank.toList ++ rest ≠ listedText separator write (item :: items) ++ rest' := by
    rw [listedText_cons, List.append_assoc]
    exact distinct item rest _ within opens
  rintro (_ | ⟨head, tail⟩) (_ | ⟨item, items⟩) rest rest' within within' opens opens' same
  · exact ⟨rfl, List.append_cancel_left same⟩
  · exact absurd same (differ item items rest rest' (within' item List.mem_cons_self) opens)
  · exact absurd same.symm (differ head tail rest' rest (within head List.mem_cons_self) opens')
  · exact listed separator apart readable (head :: tail) (item :: items) rest rest'
      ⟨List.cons_ne_nil _ _, within⟩ ⟨List.cons_ne_nil _ _, within'⟩ opens opens' same

end Readable

end TypedSelect
