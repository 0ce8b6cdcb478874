import TypedSelect.Proofs.Attempts
import TypedSelect.Proofs.ClauseGrammar
import TypedSelect.Proofs.SameForm
import TypedSelect.Result.Shape

/-! Two ways to ask for equality: a literal, and a set whose only operator is equality with it. They
are checked alike, and statements that differ in nothing else have the same texts and the same
parameters. So queries that differ in nothing else stay so whatever steps follow. -/
namespace TypedSelect

/-- Both fail with one error, or both succeed with related results. -/
inductive SameOutcome {ε α : Type} (related : α → α → Prop) : Except ε α → Except ε α → Prop
  | failed (error : ε) : SameOutcome related (.error error) (.error error)
  | succeeded (first second : α) (same : related first second) :
    SameOutcome related (.ok first) (.ok second)

namespace SameOutcome

variable {ε α β : Type} {related : α → α → Prop} {first second : Except ε α}

theorem refl (outcome : Except ε α) : SameOutcome Eq outcome outcome := by
  cases outcome with
  | error error => exact .failed error
  | ok value => exact .succeeded value value rfl

theorem of_error (error : ε) (same : SameOutcome related (.error error) second) :
    second = .error error := by
  cases same
  rfl

theorem imp {weaker : α → α → Prop} (same : SameOutcome related first second)
    (each : ∀ value other, related value other → weaker value other) :
    SameOutcome weaker first second := by
  cases same with
  | failed error => exact .failed error
  | succeeded value other same => exact .succeeded value other (each value other same)

theorem bind {after : β → β → Prop} {next next' : α → Except ε β}
    (same : SameOutcome related first second)
    (each : ∀ value other, related value other → SameOutcome after (next value) (next' other)) :
    SameOutcome after (first >>= next) (second >>= next') := by
  cases same with
  | failed error => exact .failed error
  | succeeded value other same => exact each value other same

theorem map_eq (read : α → β) (same : SameOutcome related first second)
    (each : ∀ value other, related value other → read value = read other) :
    first.map read = second.map read := by
  cases same with
  | failed error => rfl
  | succeeded value other same => exact congrArg Except.ok (each value other same)

end SameOutcome

/-- The same restriction, or a literal and the set that asks for nothing but equality with it. -/
inductive Restriction.Interchangeable : Restriction → Restriction → Prop
  | same (restriction : Restriction) : Interchangeable restriction restriction
  | equality (value : Value) : Interchangeable (.literal value)
      (.operators (OperatorSet.empty.add (.compare .equal value)))

structure Condition.Interchangeable (first second : Condition) : Prop where
  column : first.column = second.column
  restriction : first.restriction.Interchangeable second.restriction

namespace Restriction.Interchangeable

variable {first second : Restriction} (same : first.Interchangeable second)

include same

theorem fault? (type : ColumnType) : first.fault? type = second.fault? type := by
  cases same with
  | same => rfl
  | equality value =>
    unfold Restriction.fault? OperatorSet.fault?
    simp [OperatorSet.toList_single, Operator.fault?, Operator.operands]

theorem operands : first.operands = second.operands := by
  cases same with
  | same => rfl
  | equality value =>
    unfold Restriction.operands
    simp [OperatorSet.toList_single, Operator.operands]

end Restriction.Interchangeable

open Fragment

namespace Condition.Interchangeable

variable {first second : Condition} (same : first.Interchangeable second)

include same

theorem textWith (mark : Value → String) :
    textWith mark first.fragments = textWith mark second.fragments := by
  obtain ⟨column, restriction⟩ := first
  obtain ⟨column', restriction'⟩ := second
  obtain rfl : column = column' := same.column
  have restrictions : restriction.Interchangeable restriction' := same.restriction
  cases restrictions with
  | same => rfl
  | equality value =>
    have spaced (rest : String) : " = " ++ rest = " " ++ ("=" ++ (" " ++ rest)) := by
      rw [← String.append_assoc, ← String.append_assoc]
      rfl
    rw [textWith_operator]
    unfold fragments Operator.fragments
    simp only [textWith_text, spaced]
    rfl

theorem fault? (scope : Scope) :
    Query.conditionFault? scope first = Query.conditionFault? scope second := by
  unfold Query.conditionFault?
  rw [same.column]
  simp only [same.restriction.fault?]

end Condition.Interchangeable

section Conditions

variable (first second : List Condition)
  (each : List.Forall₂ Condition.Interchangeable first second)

include each

theorem conditionsText?_interchangeable (mark : Value → String) :
    conditionsText? mark first = conditionsText? mark second := by
  have texts := map_eq_of_each (fun condition => textWith mark condition.fragments) first second
    each fun _ _ same => same.textWith mark
  cases each with
  | nil => rfl
  | cons head tail =>
    rw [conditionsText?_of_ne_nil mark _ (List.cons_ne_nil _ _),
      conditionsText?_of_ne_nil mark _ (List.cons_ne_nil _ _), texts]

theorem operands_interchangeable :
    (first.flatMap fun condition => condition.restriction.operands) =
      second.flatMap fun condition => condition.restriction.operands := by
  rw [List.flatMap_def, List.flatMap_def]
  exact congrArg List.flatten (map_eq_of_each _ first second each fun _ _ same =>
    same.restriction.operands)

theorem faults_interchangeable (scope : Scope) :
    first.findSome? (Query.conditionFault? scope) =
      second.findSome? (Query.conditionFault? scope) := by
  induction each with
  | nil => rfl
  | cons head _ ih => rw [List.findSome?_cons, List.findSome?_cons, head.fault? scope, ih]

theorem put_interchangeable (condition other : Condition) (same : condition.Interchangeable other) :
    List.Forall₂ Condition.Interchangeable (condition.put first) (other.put second) := by
  induction each with
  | nil => exact .cons same .nil
  | cons head tail ih =>
    unfold Condition.put
    rw [head.column, same.column]
    split
    · exact .cons same tail
    · exact .cons head ih

theorem settled_interchangeable :
    List.Forall₂ Condition.Interchangeable
      (first.foldl (fun kept condition => condition.put kept) [])
      (second.foldl (fun kept condition => condition.put kept) []) := by
  refine List.rel_foldl ?_ .nil each
  intro kept kept' keeps condition other same
  exact put_interchangeable kept kept' keeps condition other same

end Conditions

/-- The same statement but for conditions that are interchangeable one by one. -/
structure Statement.Interchangeable (first second : Statement) : Prop where
  elsewhere : second = { first with conditions := second.conditions }
  conditions : List.Forall₂ Condition.Interchangeable first.conditions second.conditions

namespace Statement.Interchangeable

variable {first second : Statement} (same : first.Interchangeable second)

include same

theorem textWith (mark : Value → String) :
    textWith mark first.fragments = textWith mark second.fragments := by
  rw [textWith_fragments, textWith_fragments, same.elsewhere,
    conditionsText?_interchangeable first.conditions second.conditions same.conditions]
  rfl

theorem sql : first.sql = second.sql := by
  unfold Statement.sql
  rw [inlineSql_eq, same.textWith]

theorem parameterized : first.parameterized = second.parameterized := by
  have operands := operands_interchangeable first.conditions second.conditions same.conditions
  have text := same.textWith fun _ => "?"
  unfold Fragment.textWith at text
  rw [← placeholderText_eq] at text
  exact Prod.ext text (first.parameters_eq.trans (operands.trans second.parameters_eq.symm))

end Statement.Interchangeable

namespace Query

/-- The same query but for conditions that are interchangeable one by one. -/
structure Interchangeable (first second : Query) : Prop where
  elsewhere : second = { first with conditions := second.conditions }
  conditions : List.Forall₂ Condition.Interchangeable first.conditions second.conditions

/-- No text and no shape tells one query from the other. -/
structure SameResults (first second : Query) : Prop where
  sql : first.sql = second.sql
  parameterized : first.parameterized = second.parameterized
  shape : first.resultShape = second.resultShape

theorem filter_interchangeable (query other : Query) (same : query.Interchangeable other)
    (first second : List Condition)
    (each : List.Forall₂ Condition.Interchangeable first second) :
    SameOutcome Interchangeable (query.filter first) (other.filter second) := by
  unfold filter
  rw [same.elsewhere, faults_interchangeable first second each]
  dsimp only
  split
  · exact .failed _
  · exact .succeeded _ _ ⟨rfl, settled_interchangeable first second each⟩

theorem interchangeable_refl (conditions : List Condition) :
    List.Forall₂ Condition.Interchangeable conditions conditions :=
  List.forall₂_same.mpr fun condition _ => ⟨rfl, .same condition.restriction⟩

/-- A step looks at nothing in which the queries differ, and what it leaves of the conditions, or
puts in their place, is interchangeable again. -/
theorem apply_interchangeable (first second : Query) (same : first.Interchangeable second)
    (step : Step) :
    SameOutcome Interchangeable (first.apply step) (second.apply step) := by
  have ⟨elsewhere, conditions⟩ := same
  cases step with
  | filter given =>
    exact filter_interchangeable first second same given given (interchangeable_refl given)
  | withOptions _ | limit _ | offset _ =>
    refine .succeeded _ _ ⟨?_, conditions⟩
    rw [elsewhere]
    rfl
  | fromTable table =>
    rw [elsewhere]
    unfold apply fromTable
    dsimp only
    split
    · exact .succeeded _ _ ⟨rfl, .nil⟩
    · exact .failed _
  | select columns =>
    rw [elsewhere]
    unfold apply Query.select
    dsimp only
    split
    · exact .failed _
    · exact .succeeded _ _ ⟨rfl, conditions⟩
  | selectAs pairs =>
    rw [elsewhere]
    unfold apply Query.selectAs
    dsimp only
    split
    · exact .failed _
    · exact .succeeded _ _ ⟨rfl, conditions⟩
  | order clause =>
    rw [elsewhere]
    unfold apply Query.order
    dsimp only
    refine (SameOutcome.refl _).bind ?_
    intro _ _ _
    exact .succeeded _ _ ⟨rfl, conditions⟩
  | join table left right =>
    rw [elsewhere]
    unfold apply Query.join
    dsimp only
    split
    · exact .failed _
    · refine (SameOutcome.refl _).bind ?_
      rintro _ _ rfl
      split
      · exact .failed _
      · refine (SameOutcome.refl _).bind ?_
        rintro scope _ rfl
        exact .succeeded _ _ ⟨rfl, conditions⟩

theorem run_interchangeable (steps : List Step) (first second : Query)
    (same : first.Interchangeable second) :
    SameOutcome Interchangeable (first.run steps) (second.run steps) := by
  induction steps generalizing first second with
  | nil => exact .succeeded first second same
  | cons step rest ih =>
    unfold run
    rw [List.foldlM_cons, List.foldlM_cons]
    exact (apply_interchangeable first second same step).bind ih

theorem attempts_interchangeable (steps : List Step) (first second : Query)
    (same : first.Interchangeable second) :
    (first.attempts steps).Interchangeable (second.attempts steps) := by
  induction steps generalizing first second with
  | nil => exact same
  | cons step rest ih =>
    have applied := apply_interchangeable first second same step
    have attempted : (first.attempt step).Interchangeable (second.attempt step) := by
      unfold attempt
      generalize first.apply step = outcome at applied ⊢
      generalize second.apply step = outcome' at applied ⊢
      cases applied with
      | failed error => exact same
      | succeeded next other related => exact related
    exact ih _ _ attempted

theorem toStatement_interchangeable (first second : Query) (same : first.Interchangeable second) :
    SameOutcome Statement.Interchangeable first.toStatement second.toStatement := by
  have ⟨elsewhere, conditions⟩ := same
  rw [elsewhere]
  unfold toStatement
  dsimp only
  split
  · exact .failed _
  · split
    · exact .failed _
    · exact .succeeded _ _ ⟨rfl, conditions⟩

theorem Interchangeable.sameResults (first second : Query) (same : first.Interchangeable second) :
    first.SameResults second where
  sql := (toStatement_interchangeable first second same).map_eq _ fun _ _ same => same.sql
  parameterized :=
    (toStatement_interchangeable first second same).map_eq _ fun _ _ same => same.parameterized
  shape := by
    rw [same.elsewhere]
    rfl

/-- Whatever steps follow, the two queries take or refuse each alike, and no text and no shape tells
them apart, whether a failure ends the run or leaves the query as it was. -/
structure Indistinguishable (first second : Query) : Prop where
  runs : ∀ steps, SameOutcome SameResults (first.run steps) (second.run steps)
  attempts : ∀ steps, (first.attempts steps).SameResults (second.attempts steps)

/-- Where literals among the conditions are replaced by sets that ask for equality with them, the
conditions are refused with the same error or taken, and the queries that then result cannot be told
apart but by their statements. -/
theorem equality_forms_agree (query : Query) (first second : List Condition)
    (replaced : List.Forall₂ Condition.Interchangeable first second) :
    SameOutcome Indistinguishable (query.filter first) (query.filter second) := by
  have itself : query.Interchangeable query := ⟨rfl, interchangeable_refl query.conditions⟩
  refine (filter_interchangeable query query itself first second replaced).imp ?_
  intro next other same
  constructor
  · intro steps
    exact (run_interchangeable steps next other same).imp Interchangeable.sameResults
  · intro steps
    exact (attempts_interchangeable steps next other same).sameResults

/-- Three conditions on two columns; the first and the last may come as sets. -/
def sampleEqualities (equals : Value → Restriction) : List Condition :=
  [⟨"id", equals (.int 1)⟩, ⟨"email", .literal (.text "a")⟩, ⟨"id", equals (.int 2)⟩]

def equalitySet (value : Value) : Restriction :=
  .operators (OperatorSet.empty.add (.compare .equal value))

theorem sample_equalities_agree : ∃ query next other joined joined' error,
    (root sampleRegistry).run [.fromTable "users"] = .ok query ∧
      List.Forall₂ Condition.Interchangeable (sampleEqualities .literal)
        (sampleEqualities equalitySet) ∧
      query.filter (sampleEqualities .literal) = .ok next ∧
      query.filter (sampleEqualities equalitySet) = .ok other ∧
      next.conditions ≠ other.conditions ∧
      next.run [.join "posts" "id" "userId", .limit 2] = .ok joined ∧
      other.run [.join "posts" "id" "userId", .limit 2] = .ok joined' ∧
      joined.SameResults joined' ∧
      query.filter [⟨"id", .literal .null⟩] = .error error ∧
      query.filter [⟨"id", equalitySet .null⟩] = .error error := by
  obtain ⟨query, next, other, joined, joined', error, reached, taken, taken', apart, ran, ran',
      failed⟩ : ∃ query next other joined joined' error,
      (root sampleRegistry).run [.fromTable "users"] = .ok query ∧
        query.filter (sampleEqualities .literal) = .ok next ∧
        query.filter (sampleEqualities equalitySet) = .ok other ∧
        next.conditions ≠ other.conditions ∧
        next.run [.join "posts" "id" "userId", .limit 2] = .ok joined ∧
        other.run [.join "posts" "id" "userId", .limit 2] = .ok joined' ∧
        query.filter [⟨"id", .literal .null⟩] = .error error :=
    ⟨_, _, _, _, _, _, rfl, rfl, rfl, by decide, rfl, rfl, rfl⟩
  have replaced : List.Forall₂ Condition.Interchangeable (sampleEqualities .literal)
      (sampleEqualities equalitySet) :=
    .cons ⟨rfl, .equality _⟩ (.cons ⟨rfl, .same _⟩ (.cons ⟨rfl, .equality _⟩ .nil))
  have agree := equality_forms_agree query _ _ replaced
  rw [taken, taken'] at agree
  obtain _ | ⟨_, _, same⟩ := agree
  have results := same.runs [.join "posts" "id" "userId", .limit 2]
  rw [ran, ran'] at results
  obtain _ | ⟨_, _, results⟩ := results
  have refused := equality_forms_agree query [⟨"id", .literal .null⟩] [⟨"id", equalitySet .null⟩]
    (.cons ⟨rfl, .equality _⟩ .nil)
  rw [failed] at refused
  exact ⟨query, next, other, joined, joined', error, reached, replaced, taken, taken', apart, ran,
    ran', results, failed, refused.of_error⟩

end Query

end TypedSelect
