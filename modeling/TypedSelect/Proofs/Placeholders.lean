import TypedSelect.Statement.Sql

/-! The inline and the parameterized text of a statement. Both have the same fixed pieces of
text in the same order; between each two of them one has an operand's literal and the other a
placeholder, and the operands are those of the conditions in the order of their writing. -/
namespace TypedSelect

/-- Pieces of text with a mark between each two of them. -/
def interleave : List String → List String → String
  | piece :: pieces, mark :: marks => piece ++ mark ++ interleave pieces marks
  | pieces, _ => String.join pieces

namespace Fragment

def written (mark : Value → String) : Fragment → String
  | .text content => content
  | .operand value => mark value

def operands (fragments : List Fragment) : List Value :=
  fragments.filterMap operand?

/-- The text before the first operand. -/
def opening : List Fragment → String
  | [] => ""
  | .text content :: rest => content ++ opening rest
  | .operand _ :: _ => ""

/-- The texts after each operand up to the next one, or to the end. -/
def followers : List Fragment → List String
  | [] => []
  | .text _ :: rest => followers rest
  | .operand _ :: rest => opening rest :: followers rest

@[simp]
theorem operands_nil : operands [] = [] := rfl

@[simp]
theorem operands_text (content : String) (rest : List Fragment) :
    operands (.text content :: rest) = operands rest := rfl

@[simp]
theorem operands_operand (value : Value) (rest : List Fragment) :
    operands (.operand value :: rest) = value :: operands rest := rfl

theorem inlineText_eq : inlineText = written Value.literal := by
  funext fragment
  cases fragment <;> rfl

theorem placeholderText_eq : placeholderText = written fun _ => "?" := by
  funext fragment
  cases fragment <;> rfl

theorem followers_length (fragments : List Fragment) :
    (followers fragments).length = (operands fragments).length := by
  induction fragments with
  | nil => rfl
  | cons fragment rest ih =>
    cases fragment with
    | text content => exact ih
    | operand value => exact congrArg (· + 1) ih

private theorem interleave_append (content piece : String) (pieces marks : List String) :
    interleave ((content ++ piece) :: pieces) marks =
      content ++ interleave (piece :: pieces) marks := by
  cases marks <;> simp [interleave, String.append_assoc]

theorem join_written (mark : Value → String) (fragments : List Fragment) :
    String.join (fragments.map (written mark)) =
      interleave (opening fragments :: followers fragments) ((operands fragments).map mark) := by
  induction fragments with
  | nil => rfl
  | cons fragment rest ih =>
    rw [List.map_cons, String.join_cons, ih]
    cases fragment with
    | text content => exact (interleave_append content _ _ _).symm
    | operand value =>
      change mark value ++ _ = "" ++ mark value ++ _
      rw [String.empty_append]
      rfl

theorem operands_append (first second : List Fragment) :
    operands (first ++ second) = operands first ++ operands second :=
  List.filterMap_append

theorem operands_map_text {α : Type} (content : α → String) (items : List α) :
    operands (items.map (Fragment.text ∘ content)) = [] := by
  induction items with
  | nil => rfl
  | cons item rest ih => exact ih

theorem operands_optional (clause : Option String) :
    operands (Statement.optional clause) = [] := by
  cases clause <;> rfl

theorem operands_separated (separator : String) (pieces : List (List Fragment)) :
    operands (separated separator pieces) = pieces.flatMap operands := by
  unfold separated
  induction pieces with
  | nil => rfl
  | cons piece rest ih =>
    cases rest with
    | nil => simp
    | cons second rest =>
      rw [List.intercalate_cons_cons, operands_append, operands_append, ih]
      simp

end Fragment

open Fragment

theorem Operator.operands_fragments (column : String) (operator : Operator) :
    Fragment.operands (operator.fragments column) = operator.operands := by
  cases operator with
  | compare comparison operand => rfl
  | oneOf values =>
    change Fragment.operands (_ ++ separated ", " _ ++ _) = values
    rw [operands_append, operands_append, operands_separated]
    simp [List.flatMap_map]

theorem Condition.operands_fragments (condition : Condition) :
    Fragment.operands condition.fragments = condition.restriction.operands := by
  unfold Condition.fragments Restriction.operands
  cases condition.restriction with
  | literal value => rfl
  | operators set =>
    dsimp only
    rw [operands_separated, List.flatMap_map]
    simp only [Operator.operands_fragments]

theorem operands_conditionsFragments (conditions : List Condition) :
    Fragment.operands (conditionsFragments conditions) =
      conditions.flatMap fun condition => condition.restriction.operands := by
  unfold conditionsFragments
  rw [operands_separated, List.flatMap_map]
  simp only [Condition.operands_fragments]

namespace Statement

theorem operands_fragments (statement : Statement) :
    Fragment.operands statement.fragments =
      statement.conditions.flatMap fun condition => condition.restriction.operands := by
  unfold fragments
  simp only [operands_append, operands_map_text, operands_optional]
  cases given : statement.conditions with
  | nil => rfl
  | cons condition rest =>
    simp only [List.isEmpty_cons, Bool.false_eq_true, if_false, operands_text, operands_nil,
      operands_conditionsFragments, List.nil_append, List.append_nil]

theorem parameters_eq (statement : Statement) :
    statement.parameterized.2 =
      statement.conditions.flatMap fun condition => condition.restriction.operands :=
  statement.operands_fragments

/-- The two texts of a statement differ only in what stands at the places of the operands,
and the parameters are the operands of the conditions, in order. -/
theorem renderings_interleave (statement : Statement) :
    statement.parameterized.2 =
        (statement.conditions.flatMap fun condition => condition.restriction.operands) ∧
      ∃ pieces : List String, pieces.length = statement.parameterized.2.length + 1 ∧
        statement.parameterized.1 =
          interleave pieces (statement.parameterized.2.map fun _ => "?") ∧
        statement.sql = interleave pieces (statement.parameterized.2.map Value.literal) := by
  refine ⟨statement.parameters_eq, opening statement.fragments :: followers statement.fragments,
    ?_, ?_, ?_⟩
  · exact congrArg (· + 1) (followers_length statement.fragments)
  · change String.join (statement.fragments.map placeholderText) = _
    rw [placeholderText_eq]
    exact join_written _ statement.fragments
  · change String.join (statement.fragments.map inlineText) = _
    rw [inlineText_eq]
    exact join_written _ statement.fragments

end Statement

end TypedSelect
