import TypedSelect.Proofs.ComparisonText

/-! The inline text of a statement can be read in one way only. Every clause has marks of its own,
and no literal can be taken for one, whatever text it quotes; so two statements with the same text
have the same clauses and the same comparisons. -/
namespace TypedSelect

open Fragment Number Readable

namespace SelectColumn

def characters (column : SelectColumn) : List Char :=
  column.column.toList ++ optionalText " AS " String.toList column.label

theorem toList_text (column : SelectColumn) : column.text.toList = column.characters := by
  unfold text characters
  cases column.label with
  | none => exact (List.append_nil _).symm
  | some label =>
    change (column.column ++ " AS " ++ label).toList = _
    rw [String.toList_append, String.toList_append, List.append_assoc]
    rfl

def Named (column : SelectColumn) : Prop :=
  IsWord column.column ∧ ∀ label ∈ column.label, IsWord label

instance (column : SelectColumn) : Decidable column.Named :=
  inferInstanceAs (Decidable (IsWord column.column ∧ _))

theorem readable_column (marks : List String) (ends : Ends isWordCharacter marks)
    (apart : Apart " AS " marks) : Readable Named characters id marks := by
  have ends' : Ends isWordCharacter (" AS " :: marks) :=
    List.forall_mem_cons.mpr ⟨by decide, ends⟩
  have name := (readable_name _ ends').part column
  apply (name.append_optional " AS " label apart (readable_name marks ends)).weaken
  · exact fun _ inside => inside
  · rintro ⟨column, label⟩ ⟨column', label'⟩ _ _ same
    simpa using same

theorem readable_columns :
    Readable (fun columns => ∀ column ∈ columns, Named column) (listText "*" ", " characters) id
      [" FROM "] := by
  apply (Readable.list "*" ", " (by decide) (readable_column _ (by decide) (by decide)) _).weaken
  · exact fun _ inside => inside
  · intro first second _ _ same
    simpa using same
  · intro column rest text named _
    unfold characters
    rw [List.append_assoc]
    have star : ∃ d tail, "*".toList ++ rest = d :: tail ∧ isWordCharacter d = false :=
      ⟨'*', rest, rfl, by decide⟩
    exact (ne_of_heads isWordCharacter _ _ _ (head_of_word column.column named.1) star).symm

end SelectColumn

def JoinClause.characters (join : JoinClause) : List Char :=
  join.table.toList ++ (" ON ".toList ++ join.left.toList) ++ (" = ".toList ++ join.right.toList)

def JoinClause.Named (join : JoinClause) : Prop :=
  IsWord join.table ∧ IsWord join.left ∧ IsWord join.right

instance (join : JoinClause) : Decidable join.Named :=
  inferInstanceAs (Decidable (IsWord join.table ∧ _))

theorem readable_join (marks : List String) (ends : Ends isWordCharacter marks) :
    Readable JoinClause.Named JoinClause.characters id marks := by
  have table := (readable_name [" ON "] (by decide)).part JoinClause.table
  have left := (readable_name [" = "] (by decide)).part JoinClause.left
  have right := (readable_name marks ends).part JoinClause.right
  apply ((table.between " ON " left).between " = " right).weaken
  · exact fun join named => ⟨⟨named.1, named.2.1⟩, named.2.2⟩
  · rintro ⟨table, left, right⟩ ⟨table', left', right'⟩ _ _ same
    simpa [and_assoc] using same

def OrderBy.characters (order : OrderBy) : List Char :=
  order.column.toList ++ (" ".toList ++ order.direction.keyword.toList)

theorem readable_direction (marks : List String) (ends : Ends isWordCharacter marks) :
    Readable (fun _ => True) (fun direction : OrderDirection => direction.keyword.toList) id
      marks := by
  apply ((readable_name marks ends).part OrderDirection.keyword).weaken
  · rintro (_ | _) - <;> decide
  · rintro (_ | _) (_ | _) _ _ same <;> first
      | rfl
      | exact absurd same (by decide)

theorem readable_order (marks : List String) (ends : Ends isWordCharacter marks) :
    Readable (fun order => IsWord order.column) OrderBy.characters id marks := by
  have column := (readable_name [" "] (by decide)).part OrderBy.column
  have direction := (readable_direction marks ends).part OrderBy.direction
  apply (column.between " " direction).weaken
  · exact fun order named => ⟨named, trivial⟩
  · rintro ⟨column, direction⟩ ⟨column', direction'⟩ _ _ same
    simpa using same

structure Reading where
  table : String
  columns : List SelectColumn
  joins : List JoinClause
  comparisons : List (String × Nat × List String)
  orderBy : Option OrderBy
  limit : Option UInt64
  offset : Option UInt64

namespace Statement

def comparisons (statement : Statement) : List (String × Operator) :=
  statement.conditions.flatMap Condition.comparisons

def comparisons? (statement : Statement) : Option (List (String × Operator)) :=
  if statement.conditions.isEmpty then none else some statement.comparisons

/-- A statement whose names are words and whose sets of operators are not empty. -/
structure Regular (statement : Statement) : Prop where
  table : IsWord statement.table
  columns : ∀ column ∈ statement.columns, column.Named
  joins : ∀ join ∈ statement.joins, join.Named
  conditions : ∀ condition ∈ statement.conditions, IsWord condition.column
  order : ∀ order ∈ statement.orderBy, IsWord order.column
  operators : ∀ condition ∈ statement.conditions, ∀ set,
    condition.restriction = .operators set → set.toList ≠ []

/-- The text of a statement between its first word and the final semicolon. -/
def bodyText (statement : Statement) : List Char :=
  listText "*" ", " SelectColumn.characters statement.columns ++
      (" FROM ".toList ++ statement.table.toList) ++
    repeatedText " JOIN " JoinClause.characters statement.joins ++
    optionalText " WHERE " (listedText " AND " comparisonText) statement.comparisons? ++
    optionalText " ORDER BY " OrderBy.characters statement.orderBy ++
    optionalText " LIMIT " (fun count => digits count.toNat) statement.limit ++
    optionalText " OFFSET " (fun count => digits count.toNat) statement.offset

theorem comparisons_of_regular (statement : Statement) (regular : statement.Regular)
    (condition : Condition) (member : condition ∈ statement.conditions) :
    condition.comparisons ≠ [] := by
  have given := regular.operators condition member
  unfold Condition.comparisons Restriction.comparisons
  cases restriction : condition.restriction with
  | literal value => exact List.cons_ne_nil _ _
  | operators set => exact mt List.map_eq_nil_iff.mp (given set restriction)

theorem characters_conditions (statement : Statement) (regular : statement.Regular) :
    characters (if statement.conditions.isEmpty then []
        else .text " WHERE " :: conditionsFragments statement.conditions) =
      optionalText " WHERE " (listedText " AND " comparisonText) statement.comparisons? := by
  unfold comparisons? conditionsFragments comparisons
  split
  · rfl
  · rw [characters_text, characters_separated, optionalText, ← listedText_flatMap " AND "
      comparisonText Condition.comparisons _ (statement.comparisons_of_regular regular)]
    congr 2
    funext condition
    exact condition.characters_fragments

theorem characters_columns (columns : List SelectColumn) :
    (columnsText columns).toList = listText "*" ", " SelectColumn.characters columns := by
  unfold columnsText listText listedText
  split
  · rfl
  · rw [String.toList_intercalate, List.map_map]
    congr 2
    funext column
    exact column.toList_text

theorem characters_repeated {α : Type} (mark : String) (text : α → String)
    (write : α → List Char) (written : ∀ a, (text a).toList = mark.toList ++ write a)
    (items : List α) :
    characters (items.map (Fragment.text ∘ text)) = repeatedText mark write items := by
  unfold characters repeatedText
  rw [List.flatMap_map]
  congr 1
  funext item
  exact written item

theorem characters_optional {α : Type} (mark : String) (text : α → String)
    (write : α → List Char) (written : ∀ a, (text a).toList = mark.toList ++ write a)
    (given : Option α) :
    characters (optional (given.map text)) = optionalText mark write given := by
  cases given with
  | none => rfl
  | some a =>
    change (text a).toList ++ [] = mark.toList ++ write a
    rw [List.append_nil, written]

theorem toList_joinText (join : JoinClause) :
    (joinText join).toList = " JOIN ".toList ++ join.characters := by
  change (" JOIN " ++ join.table ++ " ON " ++ join.left ++ " = " ++ join.right).toList = _
  simp only [String.toList_append, JoinClause.characters, List.append_assoc]

theorem toList_orderText (order : OrderBy) :
    (orderText order).toList = " ORDER BY ".toList ++ order.characters := by
  change (" ORDER BY " ++ order.column ++ " " ++ order.direction.keyword).toList = _
  simp only [String.toList_append, OrderBy.characters, List.append_assoc]

theorem toList_countText (keyword : String) (count : UInt64) :
    (countText keyword count).toList = keyword.toList ++ digits count.toNat := by
  unfold countText
  rw [String.toList_append, String.toList_ofList]

theorem toList_sql (statement : Statement) (regular : statement.Regular) :
    statement.sql.toList = "SELECT ".toList ++ (bodyText statement ++ ";".toList) := by
  unfold sql fragments bodyText
  rw [toList_inlineSql]
  simp only [characters_append, characters_text, characters_nil, List.append_nil,
    statement.characters_conditions regular, characters_columns,
    characters_repeated " JOIN " joinText _ toList_joinText,
    characters_optional " ORDER BY " orderText _ toList_orderText,
    characters_optional " LIMIT " _ _ (toList_countText " LIMIT "),
    characters_optional " OFFSET " _ _ (toList_countText " OFFSET "), List.append_assoc]

def reading (statement : Statement) : Reading where
  table := statement.table
  columns := statement.columns
  joins := statement.joins
  comparisons := statement.comparisons.map comparisonReading
  orderBy := statement.orderBy
  limit := statement.limit
  offset := statement.offset

theorem comparisons?_regular (statement : Statement) (regular : statement.Regular)
    (items : List (String × Operator)) (given : items ∈ statement.comparisons?) :
    items ≠ [] ∧ ∀ item ∈ items, IsWord item.1 := by
  unfold comparisons? at given
  cases conditions : statement.conditions with
  | nil => simp [conditions] at given
  | cons condition rest =>
    have first := statement.comparisons_of_regular regular condition (by simp [conditions])
    obtain rfl : statement.comparisons = items := by simpa [conditions] using given
    constructor
    · unfold comparisons
      rw [conditions, List.flatMap_cons]
      exact List.append_ne_nil_of_left_ne_nil first _
    · intro item member
      obtain ⟨owner, inside, member⟩ := List.mem_flatMap.mp member
      obtain ⟨operator, _, rfl⟩ := List.mem_map.mp member
      exact regular.conditions owner inside

theorem readings_getD (statement : Statement) :
    statement.comparisons.map comparisonReading =
      (statement.comparisons?.map (List.map comparisonReading)).getD [] := by
  unfold comparisons?
  cases conditions : statement.conditions with
  | nil => simp [comparisons, conditions]
  | cons condition rest => simp

theorem readable_body : Readable Regular bodyText reading [";"] := by
  -- From left to right: what stands before a clause may be followed by the marks of that clause
  -- and of all later ones, and it is decided that none of these begins another.
  have columns := SelectColumn.readable_columns.part Statement.columns
  have table := (readable_name [" JOIN ", " WHERE ", " ORDER BY ", " LIMIT ", " OFFSET ", ";"]
    (by decide)).part Statement.table
  have selected := columns.between " FROM " table
  have joined := selected.append_repeated " JOIN " Statement.joins (by decide)
    (readable_join _ (by decide))
  have restricted := joined.append_optional " WHERE " Statement.comparisons? (by decide)
    (Readable.listed " AND " (by decide) (readable_comparison _ (by decide)))
  have ordered := restricted.append_optional " ORDER BY " Statement.orderBy (by decide)
    (readable_order _ (by decide))
  have limited := ordered.append_optional " LIMIT " Statement.limit (by decide)
    (readable_count _ (by decide))
  have whole := limited.append_optional " OFFSET " Statement.offset (by decide)
    (readable_count _ (by decide))
  apply whole.weaken
  · intro statement regular
    exact ⟨⟨⟨⟨⟨⟨regular.columns, regular.table⟩, regular.joins⟩,
      statement.comparisons?_regular regular⟩, regular.order⟩, fun _ _ => trivial⟩,
      fun _ _ => trivial⟩
  · intro first second _ _ same
    simp only [Prod.mk.injEq, Option.map_id, List.map_id, id_eq, Function.comp_apply] at same
    obtain ⟨⟨⟨⟨⟨⟨columns, table⟩, joins⟩, comparisons⟩, order⟩, limit⟩, offset⟩ := same
    unfold reading
    rw [readings_getD, readings_getD, table, columns, joins, comparisons, order, limit, offset]

/-- Two statements with the same inline text say the same: tables, columns and their aliases, joins,
ordering, limits, and all comparisons with the texts of their operands, however the comparisons
are grouped into conditions. -/
theorem reading_unique (first second : Statement) (regular : first.Regular)
    (regular' : second.Regular) (same : first.sql = second.sql) :
    first.table = second.table ∧ first.columns = second.columns ∧ first.joins = second.joins ∧
      first.comparisons.map comparisonReading = second.comparisons.map comparisonReading ∧
      first.orderBy = second.orderBy ∧ first.limit = second.limit ∧
      first.offset = second.offset := by
  have texts := congrArg String.toList same
  rw [toList_sql first regular, toList_sql second regular', List.append_cancel_left_eq] at texts
  have opens : Opens [";"] ";".toList := ⟨";", List.mem_singleton_self _, List.prefix_rfl⟩
  obtain ⟨sameReading, _⟩ := readable_body first second _ _ regular regular' opens opens texts
  exact (Reading.mk.injEq ..).mp sameReading

def sampleLiteral : Statement :=
  { ofTable "FROM" with
    columns := [⟨"AS", some "AND"⟩]
    conditions := [⟨"name", .literal (.text "x'; AND name = 'y")⟩,
      ⟨"IN", .operators (OperatorSet.empty.add (.oneOf [.int 1, .text ", "]))⟩]
    limit := some 5 }

def sampleOperators : Statement :=
  { sampleLiteral with
    conditions := [⟨"name", .operators (OperatorSet.empty.add
      (.compare .equal (.text "x'; AND name = 'y")))⟩,
      ⟨"IN", .operators (OperatorSet.empty.add (.oneOf [.int 1, .text ", "]))⟩] }

theorem sampleLiteral_regular : sampleLiteral.Regular := by
  refine ⟨by decide, by decide, by decide, by decide, by decide, ?_⟩
  intro condition member set given
  rcases List.mem_pair.mp member with rfl | rfl
  · cases given
  · cases given
    decide

theorem sampleOperators_regular : sampleOperators.Regular := by
  refine ⟨by decide, by decide, by decide, by decide, by decide, ?_⟩
  intro condition member set given
  rcases List.mem_pair.mp member with rfl | rfl <;> cases given <;> decide

theorem sample_reading : sampleLiteral ≠ sampleOperators ∧
    sampleLiteral.sql = sampleOperators.sql ∧
    sampleLiteral.table = sampleOperators.table ∧
    sampleLiteral.columns = sampleOperators.columns ∧
    sampleLiteral.joins = sampleOperators.joins ∧
    sampleLiteral.comparisons.map comparisonReading =
      sampleOperators.comparisons.map comparisonReading ∧
    sampleLiteral.orderBy = sampleOperators.orderBy ∧
    sampleLiteral.limit = sampleOperators.limit ∧
    sampleLiteral.offset = sampleOperators.offset := by
  have same : sampleLiteral.sql = sampleOperators.sql := by decide
  exact ⟨by decide, same, reading_unique sampleLiteral sampleOperators sampleLiteral_regular
    sampleOperators_regular same⟩

end Statement

end TypedSelect
