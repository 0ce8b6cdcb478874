import TypedSelect.Proofs.Lexical
import TypedSelect.Statement.Sql

/-! The text of conditions as the text of comparisons, one after another. What groups comparisons
into conditions leaves no trace in the text; column, operator and operands of each comparison can
be read off it. -/
namespace TypedSelect

open Readable

namespace Fragment

def characters (fragments : List Fragment) : List Char :=
  fragments.flatMap fun fragment => fragment.inlineText.toList

theorem toList_inlineSql (fragments : List Fragment) :
    (inlineSql fragments).toList = characters fragments := by
  unfold inlineSql
  rw [String.toList_join, List.flatMap_map]
  rfl

@[simp]
theorem characters_nil : characters [] = [] := rfl

@[simp]
theorem characters_text (content : String) (rest : List Fragment) :
    characters (.text content :: rest) = content.toList ++ characters rest := rfl

@[simp]
theorem characters_operand (value : Value) (rest : List Fragment) :
    characters (.operand value :: rest) = value.literal.toList ++ characters rest := rfl

@[simp]
theorem characters_append (first second : List Fragment) :
    characters (first ++ second) = characters first ++ characters second :=
  List.flatMap_append

theorem characters_separated {α : Type} (separator : String) (write : α → List Fragment)
    (items : List α) :
    characters (separated separator (items.map write)) =
      listedText separator (characters ∘ write) items := by
  unfold separated listedText
  induction items with
  | nil => rfl
  | cons item items ih =>
    cases items with
    | nil => simp
    | cons next items =>
      rw [List.map_cons, List.map_cons, List.intercalate_cons_cons, characters_append,
        characters_append, ← List.map_cons, ih, List.map_cons, List.map_cons, List.map_cons,
        List.intercalate_cons_cons]
      simp

end Fragment

/-- The comparisons that a restriction asks for. A literal asks for equality with it. -/
def Restriction.comparisons : Restriction → List Operator
  | .literal value => [.compare .equal value]
  | .operators set => set.toList

namespace Operator

def operandsText : Operator → List Char
  | .compare _ operand => operand.literal.toList
  | .oneOf operands =>
    "(".toList ++ (listText "" ", " (fun value : Value => value.literal.toList) operands ++
      ")".toList)

def symbols : List String := ["=", "<>", ">", ">=", "<", "<=", "IN"]

theorem symbols_rank (operator : Operator) : symbols[operator.rank]? = some operator.symbol := by
  rcases operator with ⟨comparison, operand⟩ | operands
  · cases comparison <;> rfl
  · rfl

theorem rank_of_symbol (first second : Operator) (same : first.symbol = second.symbol) :
    first.rank = second.rank := by
  obtain ⟨bound, _⟩ := List.getElem?_eq_some_iff.mp (symbols_rank first)
  have distinct : symbols.Nodup := by decide
  apply (List.getElem?_inj bound distinct).mp
  rw [symbols_rank, symbols_rank, same]

theorem readable_symbol :
    Readable (fun _ => True) (fun operator : Operator => operator.symbol.toList) rank [" "] := by
  have unspaced : ∀ symbol ∈ symbols, symbol.toList.all (· != ' ') = true := by decide
  have inside (operator : Operator) : operator.symbol.toList.all (· != ' ') = true :=
    unspaced operator.symbol (List.mem_of_getElem? (symbols_rank operator))
  intro first second rest rest' _ _ opens opens' same
  obtain ⟨sameText, sameRest⟩ := Readable.word (· != ' ') [" "] (by decide) _ _ rest rest'
    (inside first) (inside second) opens opens' same
  exact ⟨rank_of_symbol first second (String.toList_inj.mp sameText), sameRest⟩

theorem readable_bracketed (marks : List String) :
    Readable (fun operands => ∀ value ∈ operands, True)
      (fun operands : List Value => (oneOf operands).operandsText) (List.map Value.literal)
      marks := by
  have listed : Readable (fun operands => ∀ value ∈ operands, True)
      (listText "" ", " fun value : Value => value.literal.toList) (List.map Value.literal)
      [")"] := by
    apply Readable.list "" ", " (by decide) (readable_literal _ (by decide))
    rintro value rest text - opens
    have outside := head_of_opens isLiteralCharacter _ rest (by decide) opens
    exact (ne_of_heads isLiteralCharacter _ text rest (head_of_literal value) outside).symm
  exact (listed.closed ")" marks).marked "("

private theorem bracketed_ne_compared (operands : List Value) (comparison : Comparison)
    (value : Value) (rest rest' : List Char) :
    (oneOf operands).operandsText ++ rest ≠ (compare comparison value).operandsText ++ rest' := by
  have bracket : ∃ d tail, (oneOf operands).operandsText ++ rest = d :: tail ∧
      isLiteralCharacter d = false := ⟨'(', _, rfl, by decide⟩
  exact (ne_of_heads isLiteralCharacter _ rest' _ (head_of_literal value) bracket).symm

theorem readable_operands (marks : List String) (ends : Ends isLiteralCharacter marks) :
    Readable (fun _ => True) operandsText (fun operator => operator.operands.map Value.literal)
      marks := by
  intro first second rest rest' _ _ opens opens' same
  rcases first with ⟨comparison, value⟩ | values <;>
    rcases second with ⟨comparison', value'⟩ | values'
  · obtain ⟨sameLiteral, sameRest⟩ := readable_literal marks ends value value' rest rest'
      trivial trivial opens opens' same
    exact ⟨congrArg (fun text => [text]) sameLiteral, sameRest⟩
  · exact absurd same.symm (bracketed_ne_compared values' comparison value rest' rest)
  · exact absurd same (bracketed_ne_compared values comparison' value' rest rest')
  · exact readable_bracketed marks values values' rest rest' (fun _ _ => trivial)
      (fun _ _ => trivial) opens opens' same

end Operator

def comparisonText (comparison : String × Operator) : List Char :=
  comparison.1.toList ++ (" ".toList ++ comparison.2.symbol.toList) ++
    (" ".toList ++ comparison.2.operandsText)

/-- What the text of a comparison says: column, kind of operator and operands. -/
def comparisonReading (comparison : String × Operator) : String × Nat × List String :=
  (comparison.1, comparison.2.rank, comparison.2.operands.map Value.literal)

theorem readable_comparison (marks : List String) (ends : Ends isLiteralCharacter marks) :
    Readable (fun comparison => IsWord comparison.1) comparisonText comparisonReading marks := by
  have column := (readable_name [" "] (by decide)).part (Prod.fst : String × Operator → String)
  have symbol := Operator.readable_symbol.part (Prod.snd : String × Operator → Operator)
  have operands := (Operator.readable_operands marks ends).part
    (Prod.snd : String × Operator → Operator)
  apply ((column.between " " symbol).between " " operands).weaken
  · exact fun comparison inside => ⟨⟨inside, trivial⟩, trivial⟩
  · intro first second _ _ same
    simp only [Prod.mk.injEq] at same
    exact Prod.ext same.1.1 (Prod.ext same.1.2 same.2)

open Fragment

theorem Operator.characters_fragments (column : String) (operator : Operator) :
    characters (operator.fragments column) = comparisonText (column, operator) := by
  cases operator with
  | compare comparison operand => simp [fragments, comparisonText, operandsText, symbol]
  | oneOf operands =>
    have listed : characters (separated ", " (operands.map fun value => [Fragment.operand value])) =
        listText "" ", " (fun value : Value => value.literal.toList) operands := by
      rw [characters_separated]
      cases operands with
      | nil => rfl
      | cons value values => simp [listText, Function.comp_def]
    simp [fragments, comparisonText, operandsText, symbol, listed]

namespace Condition

def comparisons (condition : Condition) : List (String × Operator) :=
  condition.restriction.comparisons.map (condition.column, ·)

theorem characters_fragments (condition : Condition) :
    characters condition.fragments = listedText " AND " comparisonText condition.comparisons := by
  unfold fragments comparisons Restriction.comparisons
  cases condition.restriction with
  | literal value => simp [listedText, comparisonText, Operator.operandsText, Operator.symbol,
      Comparison.symbol]
  | operators set =>
    rw [listedText_map, characters_separated]
    congr 1
    funext operator
    exact operator.characters_fragments condition.column

end Condition

end TypedSelect
