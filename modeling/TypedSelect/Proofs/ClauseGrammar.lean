import TypedSelect.Proofs.CanonicalOperators
import TypedSelect.Proofs.Placeholders

/-! The text of a statement by its grammar. A statement is a list of clauses with one space between
each two of them; the conditions of its WHERE clause, and the operators of each condition, have AND
between them. Where the operands stand makes no difference, so that all this is said once for
literals and placeholders. -/
namespace TypedSelect

theorem intercalate_cons (separator first : String) (rest : List String) :
    separator.intercalate (first :: rest) = first ++ String.join (rest.map (separator ++ ·)) := by
  induction rest generalizing first with
  | nil => simp
  | cons next rest ih =>
    rw [String.intercalate_cons_cons, ih, List.map_cons, String.join_cons, String.append_assoc,
      String.append_assoc]

namespace Fragment

/-- The text of fragments with a mark in the place of each operand. -/
def textWith (mark : Value → String) (fragments : List Fragment) : String :=
  String.join (fragments.map (written mark))

theorem inlineSql_eq : inlineSql = textWith Value.literal := by
  funext fragments
  rw [inlineSql, inlineText_eq, textWith]

section Mark

variable (mark : Value → String)

theorem textWith_nil : textWith mark [] = "" := rfl

theorem textWith_append (first second : List Fragment) :
    textWith mark (first ++ second) = textWith mark first ++ textWith mark second := by
  unfold textWith
  rw [List.map_append, String.join_append]

theorem textWith_text (content : String) (rest : List Fragment) :
    textWith mark (.text content :: rest) = content ++ textWith mark rest :=
  String.join_cons

theorem textWith_texts {α : Type} (content : α → String) (items : List α) :
    textWith mark (items.map (Fragment.text ∘ content)) = String.join (items.map content) := by
  unfold textWith
  rw [List.map_map]
  rfl

theorem textWith_optional (clause : Option String) :
    textWith mark (Statement.optional clause) = String.join clause.toList := by
  cases clause <;> rfl

theorem textWith_separated (separator : String) (pieces : List (List Fragment)) :
    textWith mark (separated separator pieces) =
      separator.intercalate (pieces.map (textWith mark)) := by
  unfold separated
  induction pieces with
  | nil => rfl
  | cons piece rest ih =>
    cases rest with
    | nil => simp
    | cons next rest =>
      have between : textWith mark [.text separator] = separator := by
        rw [textWith_text, textWith_nil, String.append_empty]
      rw [List.intercalate_cons_cons, textWith_append, textWith_append, between, ih]
      simp only [List.map_cons, String.intercalate_cons_cons]

end Mark

end Fragment

open Fragment

/-- The text of conditions with a mark in the place of each operand, if there are any. -/
def conditionsText? (mark : Value → String) (conditions : List Condition) : Option String :=
  if conditions.isEmpty then none else some (textWith mark (conditionsFragments conditions))

theorem conditionsSql?_eq : conditionsSql? = conditionsText? Value.literal := by
  funext conditions
  rw [conditionsSql?, inlineSql_eq, conditionsText?]

section Conditions

variable (mark : Value → String)

theorem conditionsText?_nil : conditionsText? mark [] = none := rfl

theorem conditionsText?_of_ne_nil (conditions : List Condition) (given : conditions ≠ []) :
    conditionsText? mark conditions =
      some (" AND ".intercalate (conditions.map fun condition =>
        textWith mark condition.fragments)) := by
  unfold conditionsText? conditionsFragments
  rw [if_neg (by simpa using given), textWith_separated, List.map_map]
  rfl

theorem conditionsText?_append (first second : List Condition) (given : first ≠ [])
    (given' : second ≠ []) :
    ∃ text text', conditionsText? mark first = some text ∧
      conditionsText? mark second = some text' ∧
      conditionsText? mark (first ++ second) = some (text ++ " AND " ++ text') := by
  refine ⟨_, _, conditionsText?_of_ne_nil mark first given,
    conditionsText?_of_ne_nil mark second given', ?_⟩
  rw [conditionsText?_of_ne_nil mark _ (List.append_ne_nil_of_left_ne_nil given second),
    List.map_append, String.intercalate_append_of_ne_nil]
  · exact mt List.map_eq_nil_iff.mp given
  · exact mt List.map_eq_nil_iff.mp given'

theorem textWith_operators (column : String) (set : OperatorSet) :
    textWith mark (Condition.mk column (.operators set)).fragments =
      " AND ".intercalate (set.toList.map fun operator =>
        textWith mark (operator.fragments column)) := by
  unfold Condition.fragments
  rw [textWith_separated, List.map_map]
  rfl

theorem textWith_operator (column : String) (operator : Operator) :
    textWith mark (Condition.mk column (.operators (OperatorSet.empty.add operator))).fragments =
      textWith mark (operator.fragments column) := by
  rw [textWith_operators, OperatorSet.toList_single, List.map_singleton,
    String.intercalate_singleton]

end Conditions

theorem conditionSql_eq :
    Condition.sql = fun condition => textWith Value.literal condition.fragments := by
  funext condition
  rw [Condition.sql, inlineSql_eq]

namespace Statement

def columnText : SelectColumn → String
  | ⟨column, none⟩ => column
  | ⟨column, some label⟩ => column ++ " AS " ++ label

def selectClause : List SelectColumn → String
  | [] => "SELECT *"
  | columns => "SELECT " ++ ", ".intercalate (columns.map columnText)

def joinClause (join : JoinClause) : String :=
  "JOIN " ++ join.table ++ " ON " ++ join.left ++ " = " ++ join.right

def orderClause : OrderBy → String
  | ⟨column, .ascending⟩ => "ORDER BY " ++ column ++ " ASC"
  | ⟨column, .descending⟩ => "ORDER BY " ++ column ++ " DESC"

/-- The clauses that a statement has, in their order; the text of its conditions is given. -/
def clauses (statement : Statement) (conditions : Option String) : List String :=
  [selectClause statement.columns, "FROM " ++ statement.table] ++
    statement.joins.map joinClause ++
    (conditions.map ("WHERE " ++ ·)).toList ++
    (statement.orderBy.map orderClause).toList ++
    (statement.limit.map fun count => "LIMIT " ++ toString count).toList ++
    (statement.offset.map fun count => "OFFSET " ++ toString count).toList

theorem spaced_joinClause (join : JoinClause) : joinText join = " " ++ joinClause join := by
  change " JOIN " ++ join.table ++ " ON " ++ join.left ++ " = " ++ join.right = _
  simp only [joinClause, ← String.append_assoc]
  rfl

theorem spaced_orderClause (order : OrderBy) : orderText order = " " ++ orderClause order := by
  obtain ⟨column, direction⟩ := order
  cases direction with
  | ascending =>
    change " ORDER BY " ++ column ++ " " ++ "ASC" = " " ++ ("ORDER BY " ++ column ++ " ASC")
    simp only [String.append_assoc]
    rfl
  | descending =>
    change " ORDER BY " ++ column ++ " " ++ "DESC" = " " ++ ("ORDER BY " ++ column ++ " DESC")
    simp only [String.append_assoc]
    rfl

theorem spaced_count (spaced keyword : String) (same : spaced = " " ++ keyword) (count : UInt64) :
    countText spaced count = " " ++ (keyword ++ toString count) := by
  subst same
  exact String.append_assoc

theorem selectClause_eq (columns : List SelectColumn) :
    "SELECT " ++ columnsText columns = selectClause columns := by
  have written : SelectColumn.text = columnText := by
    funext ⟨column, label⟩
    cases label <;> rfl
  unfold columnsText
  rw [written]
  cases columns <;> rfl

theorem join_spaced {α : Type} (text clause : α → String)
    (spaced : ∀ item, text item = " " ++ clause item) (items : List α) :
    String.join (items.map text) = String.join ((items.map clause).map (" " ++ ·)) := by
  rw [List.map_map]
  congr 2
  funext item
  exact spaced item

theorem textWith_where (mark : Value → String) (conditions : List Condition) :
    textWith mark (if conditions.isEmpty then []
        else .text " WHERE " :: conditionsFragments conditions) =
      String.join (((conditionsText? mark conditions).map ("WHERE " ++ ·)).toList.map
        (" " ++ ·)) := by
  unfold conditionsText?
  split
  · rfl
  · simp only [textWith_text, Option.map_some, Option.toList_some, List.map_singleton,
      String.join_cons, String.join_nil, String.append_empty, ← String.append_assoc]
    rfl

/-- The text of a statement, whatever is written for its operands. -/
theorem textWith_fragments (mark : Value → String) (statement : Statement) :
    textWith mark statement.fragments =
      " ".intercalate (statement.clauses (conditionsText? mark statement.conditions)) ++ ";" := by
  have joins := join_spaced joinText joinClause spaced_joinClause statement.joins
  have order := join_spaced orderText orderClause spaced_orderClause statement.orderBy.toList
  have limit := join_spaced _ _ (spaced_count " LIMIT " "LIMIT " rfl) statement.limit.toList
  have offset := join_spaced _ _ (spaced_count " OFFSET " "OFFSET " rfl) statement.offset.toList
  have table : " FROM " ++ statement.table = " " ++ ("FROM " ++ statement.table) := by
    rw [← String.append_assoc]
    rfl
  unfold fragments clauses
  simp only [List.cons_append, List.nil_append, textWith_append, textWith_text, textWith_nil,
    textWith_texts, textWith_optional, textWith_where, Option.toList_map, joins, order, limit,
    offset, intercalate_cons, List.map_cons, List.map_append, String.join_cons, String.join_append,
    ← selectClause_eq, ← table, String.append_assoc, String.append_empty]

/-- The text of a statement is that of its clauses, that of conditions is that of each of them, and
that of a set of operators is that of a set for each of them; the conditions of two lists, one after
the other, have the texts of both. -/
theorem sql_by_clauses :
    (∀ statement : Statement, statement.sql =
      " ".intercalate (statement.clauses (conditionsSql? statement.conditions)) ++ ";") ∧
    (∀ conditions : List Condition, conditionsSql? conditions =
      if conditions = [] then none
      else some (" AND ".intercalate (conditions.map Condition.sql))) ∧
    (∀ first second : List Condition, first ≠ [] → second ≠ [] →
      ∃ text text', conditionsSql? first = some text ∧ conditionsSql? second = some text' ∧
        conditionsSql? (first ++ second) = some (text ++ " AND " ++ text')) ∧
    ∀ (column : String) (set : OperatorSet),
      (Condition.mk column (.operators set)).sql =
        " AND ".intercalate (set.toList.map fun operator =>
          (Condition.mk column (.operators (OperatorSet.empty.add operator))).sql) := by
  simp only [conditionsSql?_eq]
  refine ⟨fun statement => ?_, fun conditions => ?_, conditionsText?_append Value.literal,
    fun column set => ?_⟩
  · unfold sql
    rw [inlineSql_eq, textWith_fragments]
  · split
    · rename_i empty
      rw [empty, conditionsText?_nil]
    · rename_i given
      rw [conditionsText?_of_ne_nil Value.literal conditions given, conditionSql_eq]
  · simp only [conditionSql_eq, textWith_operator]
    exact textWith_operators Value.literal column set

def nameCondition : Condition :=
  ⟨"name", .literal (.text "O'Brien AND co")⟩

def idCondition : Condition :=
  ⟨"id", .operators ⟨[.compare .greater (.int 0), .oneOf [.int 3, .int 1]], by decide⟩⟩

theorem conditions_by_clauses :
    (∃ text text', conditionsSql? [nameCondition] = some text ∧
      conditionsSql? [idCondition] = some text' ∧
      conditionsSql? [nameCondition, idCondition] = some (text ++ " AND " ++ text')) ∧
    { ofTable "users" with
      conditions := [nameCondition, idCondition]
      orderBy := some ⟨"name", .descending⟩
      offset := some 20 }.sql =
      "SELECT * FROM users WHERE name = 'O''Brien AND co' AND id > 0 AND id IN (3, 1) " ++
        "ORDER BY name DESC OFFSET 20;" :=
  ⟨sql_by_clauses.2.2.1 [nameCondition] [idCondition] (by decide) (by decide), by decide⟩

end Statement

end TypedSelect
