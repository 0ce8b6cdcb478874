import TypedSelect.Proofs.Run

/-! The normal form of runs. Where a run from a root ends can be read off the list of its steps:
each part of the query comes from the last step of its kind, and a base table clears all but the
options. The steps that a later one supersedes can be left out: those that remain succeed and end
in the same query. -/
namespace TypedSelect

/-- What a step is about. The two ways of selecting columns are of one kind. -/
inductive StepKind where
  | options
  | table
  | selection
  | conditions
  | join
  | order
  | limit
  | offset
deriving DecidableEq

namespace Step

def kind : Step → StepKind
  | .withOptions _ => .options
  | .fromTable _ => .table
  | .select _ => .selection
  | .selectAs _ => .selection
  | .filter _ => .conditions
  | .join _ _ _ => .join
  | .order _ => .order
  | .limit _ => .limit
  | .offset _ => .offset

def options? : Step → Option QueryOptions
  | .withOptions options => some options
  | _ => none

def table? : Step → Option String
  | .fromTable table => some table
  | _ => none

def selection? : Step → Option Selection
  | .select columns => some (.ofColumns columns)
  | .selectAs pairs => some (.ofPairs pairs)
  | _ => none

def conditions? : Step → Option (List Condition)
  | .filter conditions => some (lastOfEach Condition.column conditions)
  | _ => none

def join? : Step → Option JoinClause
  | .join table left right => some ⟨table, left, right⟩
  | _ => none

def order? : Step → Option OrderBy
  | .order clause => some clause
  | _ => none

def limit? : Step → Option UInt64
  | .limit count => some count
  | _ => none

def offset? : Step → Option UInt64
  | .offset count => some count
  | _ => none

def last? {α : Type} (part : Step → Option α) (steps : List Step) : Option α :=
  (steps.filterMap part).getLast?

/-- The steps after the last choice of a base table, all steps if there is none. -/
def sinceTable (steps : List Step) : List Step :=
  (steps.reverse.takeWhile fun step => step.kind ≠ .table).reverse

/-- Whether a step replaces everything that steps of a kind before it did: a base table replaces
all but options, and every step but a join replaces its own kind. -/
def clears (step : Step) (kind : StepKind) : Bool :=
  (step.kind == .table && kind != .options) || (step.kind == kind && kind != .join)

/-- The steps that no later step supersedes. -/
def essential : List Step → List Step
  | [] => []
  | step :: rest =>
    if rest.any (·.clears step.kind) then essential rest else step :: essential rest

theorem last?_concat {α : Type} (part : Step → Option α) (steps : List Step) (step : Step) :
    last? part (steps ++ [step]) = (part step).or (last? part steps) := by
  unfold last?
  rw [List.filterMap_append, List.getLast?_append]
  cases said : part step <;> simp [said]

theorem sinceTable_concat (steps : List Step) (step : Step) :
    sinceTable (steps ++ [step]) =
      if step.kind = .table then [] else sinceTable steps ++ [step] := by
  unfold sinceTable
  rw [List.reverse_append, List.reverse_singleton, List.singleton_append, List.takeWhile_cons]
  by_cases same : step.kind = .table
  · simp [same]
  · simp [same]

theorem eq_fromTable (step : Step) (chosen : step.kind = .table) :
    ∃ table, step = .fromTable table := by
  cases step with
  | fromTable table => exact ⟨table, rfl⟩
  | _ => cases chosen

theorem clears_of_table (step : Step) (chosen : step.kind = .table) (kind : StepKind)
    (cleared : kind ≠ .options) : step.clears kind = true := by
  simp [clears, chosen, cleared]

theorem table_of_clears (step : Step) (kind : StepKind) (elsewhere : kind ≠ step.kind)
    (cleared : step.clears kind = true) : step.kind = .table ∧ kind ≠ .options := by
  simpa [clears, Ne.symm elsewhere] using cleared

theorem table_of_clears_join (step : Step) (cleared : step.clears .join = true) :
    step.kind = .table := by
  simpa [clears] using cleared

theorem table_of_clears_table (step : Step) (cleared : step.clears .table = true) :
    step.kind = .table := by
  simpa [clears] using cleared

theorem scope_kept (step : Step) (rest : List Step) (notTable : step.kind ≠ .table)
    (notOptions : step.kind ≠ .options) (kept : rest.any (·.clears step.kind) = false) :
    (step :: rest).any (·.clears .join) = false := by
  rw [List.any_eq_false] at kept ⊢
  intro later member cleared
  have chosen := table_of_clears_join later cleared
  rcases List.mem_cons.mp member with rfl | inside
  · exact notTable chosen
  · exact kept later inside (clears_of_table later chosen step.kind notOptions)

end Step

namespace Query

/-- The query that a list of steps describes, part by part. -/
def described (registry : Registry) (steps : List Step) : Query :=
  let recent := Step.sinceTable steps
  let table := Step.last? Step.table? steps
  let joins := recent.filterMap Step.join?
  { registry := registry
    options := (Step.last? Step.options? steps).getD .default
    table := table
    scope := .ofTables ((table.toList ++ joins.map (·.table)).filterMap registry.table?)
    selection := (Step.last? Step.selection? recent).getD .all
    conditions := (Step.last? Step.conditions? recent).getD []
    orderBy := Step.last? Step.order? recent
    limit := Step.last? Step.limit? recent
    offset := Step.last? Step.offset? recent
    joins := joins }

private theorem ofTables_append (tables more : List Table) :
    Scope.ofTables (tables ++ more) = more.foldl Scope.widened (Scope.ofTables tables) :=
  List.foldl_append

private theorem described_concat_table (registry : Registry) (before : List Step)
    (table : String) :
    described registry (before ++ [.fromTable table]) =
      { (root registry).withOptions (described registry before).options with
        table := some table
        scope := .ofTables ([table].filterMap registry.table?) } := by
  simp only [described, Step.last?_concat, Step.sinceTable_concat, Step.kind, if_true]
  rfl

/-- The query after a step that is not the choice of a base table. -/
def effect (query : Query) (step : Step) : Query where
  registry := query.registry
  options := step.options?.getD query.options
  table := query.table
  scope := ((step.join?.toList.map (·.table)).filterMap query.registry.table?).foldl
    Scope.widened query.scope
  selection := step.selection?.getD query.selection
  conditions := step.conditions?.getD query.conditions
  orderBy := step.order?.or query.orderBy
  limit := step.limit?.or query.limit
  offset := step.offset?.or query.offset
  joins := query.joins ++ step.join?.toList

private theorem described_concat_other (registry : Registry) (before : List Step) (step : Step)
    (other : step.kind ≠ .table) :
    described registry (before ++ [step]) = (described registry before).effect step := by
  have sameTable : step.table? = none := by
    cases step with
    | fromTable table => exact absurd rfl other
    | _ => rfl
  have joined : [step].filterMap Step.join? = step.join?.toList := by
    cases said : step.join? <;> simp [said]
  simp only [described, effect, Step.last?_concat, Step.sinceTable_concat, if_neg other,
    sameTable, Option.none_or, Option.getD_or, List.filterMap_append, List.map_append,
    ← List.append_assoc, ofTables_append, joined]

theorem apply_effect (query next : Query) (step : Step) (other : step.kind ≠ .table)
    (applied : query.apply step = .ok next) : next = query.effect step := by
  have kept : query.joins ++ [] = query.joins := List.append_nil query.joins
  cases step with
  | fromTable table => exact absurd rfl other
  | join table left right =>
    obtain ⟨joined, registered, _, _, _, rfl⟩ := (join_ok query next table left right).mp applied
    simp only [effect, Step.join?, Option.toList_some, List.map_cons, List.map_nil,
      List.filterMap_cons_some registered]
    rfl
  | withOptions _ | limit _ | offset _ =>
    obtain rfl := (ok_success _ next).mp applied
    simp only [effect, Step.join?, Option.toList_none, kept]
    rfl
  | select columns =>
    obtain ⟨_, rfl⟩ := (select_ok query next columns).mp applied
    simp only [effect, Step.join?, Option.toList_none, kept]
    rfl
  | selectAs pairs =>
    obtain ⟨_, rfl⟩ := (selectAs_ok query next pairs).mp applied
    simp only [effect, Step.join?, Option.toList_none, kept]
    rfl
  | filter conditions =>
    obtain ⟨_, rfl⟩ := (filter_ok query next conditions).mp applied
    simp only [effect, Step.join?, Option.toList_none, kept]
    rfl
  | order clause =>
    obtain ⟨_, rfl⟩ := (order_ok query next clause).mp applied
    simp only [effect, Step.join?, Option.toList_none, kept]
    rfl

theorem apply_described (registry : Registry) (before : List Step) (step : Step) (next : Query)
    (applied : (described registry before).apply step = .ok next) :
    next = described registry (before ++ [step]) := by
  by_cases other : step.kind = .table
  · obtain ⟨table, rfl⟩ := step.eq_fromTable other
    obtain ⟨found, registered, rfl⟩ := (fromTable_ok _ next table).mp applied
    change registry.table? table = some found at registered
    rw [described_concat_table, List.filterMap_cons_some registered, Scope.ofTable_eq]
    rfl
  · rw [described_concat_other registry before step other]
    exact apply_effect _ next step other applied

theorem run_described (registry : Registry) (before steps : List Step) (last : Query)
    (ran : (described registry before).run steps = .ok last) :
    last = described registry (before ++ steps) := by
  induction steps generalizing before with
  | nil =>
    rw [List.append_nil]
    exact ((run_nil _ last).mp ran).symm
  | cons step rest ih =>
    obtain ⟨next, applied, ran⟩ := (run_cons _ last step rest).mp ran
    rw [apply_described registry before step next applied] at ran
    rw [List.append_cons]
    exact ih (before ++ [step]) ran

def SameIn (kind : StepKind) (query other : Query) : Prop :=
  match kind with
  | .options => query.options = other.options
  | .table => query.table = other.table
  | .selection => query.selection = other.selection
  | .conditions => query.conditions = other.conditions
  | .join => query.scope = other.scope ∧ query.joins = other.joins
  | .order => query.orderBy = other.orderBy
  | .limit => query.limit = other.limit
  | .offset => query.offset = other.offset

/-- Two queries of one registry that differ only in parts which the steps to come clear. -/
structure Agree (coming : List Step) (query other : Query) : Prop where
  registry : query.registry = other.registry
  same : ∀ kind, coming.any (·.clears kind) = false → SameIn kind query other

theorem eq_of_agree_nil (query other : Query) (agree : Agree [] query other) :
    query = other := by
  obtain ⟨registry, same⟩ := agree
  have options : query.options = other.options := same .options rfl
  have table : query.table = other.table := same .table rfl
  have selection : query.selection = other.selection := same .selection rfl
  have conditions : query.conditions = other.conditions := same .conditions rfl
  obtain ⟨scope, joins⟩ : SameIn .join query other := same .join rfl
  have order : query.orderBy = other.orderBy := same .order rfl
  have limit : query.limit = other.limit := same .limit rfl
  have offset : query.offset = other.offset := same .offset rfl
  cases query
  cases other
  subst registry options table scope selection conditions order limit offset joins
  rfl

theorem effect_frame (query : Query) (step : Step) (kind : StepKind)
    (chosen : step.kind ≠ .table) (elsewhere : kind ≠ step.kind) :
    SameIn kind query (query.effect step) := by
  cases step <;> cases kind <;> first
    | exact absurd rfl elsewhere
    | exact absurd rfl chosen
    | rfl
    | exact ⟨rfl, (List.append_nil _).symm⟩

theorem apply_frame (query next : Query) (step : Step) (applied : query.apply step = .ok next) :
    next.registry = query.registry ∧
      ∀ kind, kind ≠ step.kind → step.clears kind = false → SameIn kind query next := by
  by_cases chosen : step.kind = .table
  · obtain ⟨table, rfl⟩ := step.eq_fromTable chosen
    obtain ⟨found, _, rfl⟩ := (fromTable_ok query next table).mp applied
    refine ⟨rfl, fun kind _ kept => ?_⟩
    cases kind with
    | options => rfl
    | _ => cases kept
  · obtain rfl := apply_effect query next step chosen applied
    exact ⟨rfl, fun kind elsewhere _ => effect_frame query step kind chosen elsewhere⟩

/-- A step that succeeds also succeeds on a query with the same registry and scope. Choosing a
base table and setting options do not look at the scope. -/
theorem apply_elsewhere (query other next : Query) (step : Step)
    (registry : other.registry = query.registry)
    (scope : step.kind ≠ .table → step.kind ≠ .options → other.scope = query.scope)
    (applied : query.apply step = .ok next) : ∃ result, other.apply step = .ok result := by
  cases step with
  | withOptions _ | limit _ | offset _ => exact ⟨_, rfl⟩
  | fromTable table =>
    obtain ⟨found, registered, _⟩ := (fromTable_ok query next table).mp applied
    exact ⟨_, (fromTable_ok other _ table).mpr ⟨found, registry ▸ registered, rfl⟩⟩
  | select columns =>
    obtain ⟨known, _⟩ := (select_ok query next columns).mp applied
    exact ⟨_, (select_ok other _ columns).mpr ⟨scope nofun nofun ▸ known, rfl⟩⟩
  | selectAs pairs =>
    obtain ⟨passed, _⟩ := (selectAs_ok query next pairs).mp applied
    exact ⟨_, (selectAs_ok other _ pairs).mpr ⟨scope nofun nofun ▸ passed, rfl⟩⟩
  | filter conditions =>
    obtain ⟨passed, _⟩ := (filter_ok query next conditions).mp applied
    exact ⟨_, (filter_ok other _ conditions).mpr ⟨scope nofun nofun ▸ passed, rfl⟩⟩
  | join table left right =>
    obtain ⟨joined, registered, known, owned, free, _⟩ :=
      (join_ok query next table left right).mp applied
    rw [← scope nofun nofun] at known free
    rw [← registry] at registered
    exact ⟨_, (join_ok other _ table left right).mpr
      ⟨joined, registered, known, owned, free, rfl⟩⟩
  | order clause =>
    obtain ⟨known, _⟩ := (order_ok query next clause).mp applied
    exact ⟨_, (order_ok other _ clause).mpr ⟨scope nofun nofun ▸ known, rfl⟩⟩

theorem effect_same (query other : Query) (step : Step) (kind : StepKind)
    (registry : query.registry = other.registry) (same : SameIn kind query other) :
    SameIn kind (query.effect step) (other.effect step) := by
  cases kind with
  | options => exact congrArg step.options?.getD same
  | table => exact same
  | selection => exact congrArg step.selection?.getD same
  | conditions => exact congrArg step.conditions?.getD same
  | join =>
    obtain ⟨scope, joins⟩ := same
    refine ⟨?_, congrArg (· ++ step.join?.toList) joins⟩
    unfold effect
    rw [registry, scope]
  | order => exact congrArg step.order?.or same
  | limit => exact congrArg step.limit?.or same
  | offset => exact congrArg step.offset?.or same

private theorem effect_cleared (query other : Query) (step : Step) (kind : StepKind)
    (chosen : step.kind ≠ .table) (cleared : step.clears kind = true) :
    SameIn kind (query.effect step) (other.effect step) := by
  cases step <;> cases kind <;> first
    | exact absurd rfl chosen
    | cases cleared; done
    | rfl

theorem sameIn_trans (kind : StepKind) (first second third : Query)
    (before : SameIn kind first second) (after : SameIn kind second third) :
    SameIn kind first third := by
  cases kind with
  | join => exact ⟨before.1.trans after.1, before.2.trans after.2⟩
  | _ => exact Eq.trans before after

/-- A kept step succeeds on a query that agrees with one on which it succeeds, and the queries
after it agree again. -/
theorem agree_kept (step : Step) (rest : List Step) (query other next : Query)
    (agree : Agree (step :: rest) other query)
    (kept : rest.any (·.clears step.kind) = false) (applied : query.apply step = .ok next) :
    ∃ result, other.apply step = .ok result ∧ Agree rest result next := by
  have scope : step.kind ≠ .table → step.kind ≠ .options → other.scope = query.scope :=
    fun notTable notOptions =>
      (agree.same .join (step.scope_kept rest notTable notOptions kept)).1
  obtain ⟨result, succeeded⟩ := apply_elsewhere query other next step agree.registry scope applied
  have registry : result.registry = next.registry := by
    rw [(apply_frame other result step succeeded).1, agree.registry,
      (apply_frame query next step applied).1]
  refine ⟨result, succeeded, registry, fun kind open_ => ?_⟩
  by_cases chosen : step.kind = .table
  · obtain ⟨table, rfl⟩ := step.eq_fromTable chosen
    obtain ⟨found, registered, rfl⟩ := (fromTable_ok query next table).mp applied
    obtain ⟨again, reread, rfl⟩ := (fromTable_ok other result table).mp succeeded
    rw [agree.registry, registered, Option.some.injEq] at reread
    subst reread
    cases kind with
    | options => exact agree.same .options open_
    | join => exact ⟨rfl, rfl⟩
    | _ => rfl
  · obtain rfl := apply_effect query next step chosen applied
    obtain rfl := apply_effect other result step chosen succeeded
    cases cleared : step.clears kind with
    | true => exact effect_cleared other query step kind chosen cleared
    | false =>
      apply effect_same other query step kind agree.registry
      exact agree.same kind (by rw [List.any_cons, cleared, open_]; rfl)

theorem agree_superseded (step : Step) (rest : List Step) (query other next : Query)
    (agree : Agree (step :: rest) other query)
    (superseded : rest.any (·.clears step.kind) = true)
    (applied : query.apply step = .ok next) : Agree rest other next := by
  obtain ⟨registry, frame⟩ := apply_frame query next step applied
  refine ⟨agree.registry.trans registry.symm, fun kind open_ => ?_⟩
  have elsewhere : kind ≠ step.kind := by
    rintro rfl
    rw [superseded] at open_
    cases open_
  cases cleared : step.clears kind with
  | true =>
    obtain ⟨chosen, notOptions⟩ := step.table_of_clears kind elsewhere cleared
    rw [chosen] at superseded
    obtain ⟨later, member, again⟩ := List.any_eq_true.mp superseded
    have clears := later.clears_of_table (later.table_of_clears_table again) kind notOptions
    exact absurd clears (List.any_eq_false.mp open_ later member)
  | false =>
    have before := agree.same kind (by rw [List.any_cons, cleared, open_]; rfl)
    exact sameIn_trans kind other query next before (frame kind elsewhere cleared)

/-- Leaving out the superseded steps of a run: the invariant is that the two queries agree up to
what the steps to come clear. -/
theorem run_essential (steps : List Step) (query other last : Query)
    (agree : Agree steps other query) (ran : query.run steps = .ok last) :
    other.run (Step.essential steps) = .ok last := by
  induction steps generalizing query other with
  | nil =>
    obtain rfl := eq_of_agree_nil other query agree
    exact ran
  | cons step rest ih =>
    obtain ⟨next, applied, ran⟩ := (run_cons query last step rest).mp ran
    unfold Step.essential
    cases superseded : rest.any (·.clears step.kind) with
    | true =>
      rw [if_pos rfl]
      exact ih next other
        (agree_superseded step rest query other next agree superseded applied) ran
    | false =>
      rw [if_neg Bool.false_ne_true]
      obtain ⟨result, succeeded, agree⟩ :=
        agree_kept step rest query other next agree superseded applied
      exact (run_cons other last step _).mpr ⟨result, succeeded, ih next result agree ran⟩

/-- A run from a root ends in the query that its steps describe, and so does the run of those
steps alone that no later one supersedes. -/
theorem run_normalForm (registry : Registry) (steps : List Step) (query : Query)
    (reached : (root registry).run steps = .ok query) :
    query = described registry steps ∧
      (root registry).run (Step.essential steps) = .ok query := by
  constructor
  · exact run_described registry [] steps query reached
  · apply run_essential steps (root registry) (root registry) query _ reached
    refine ⟨rfl, fun kind _ => ?_⟩
    cases kind with
    | join => exact ⟨rfl, rfl⟩
    | _ => rfl

def supersededSteps : List Step :=
  [.fromTable "posts", .limit 3, .withOptions ⟨true⟩, .fromTable "users", .select ["email"],
    .withOptions ⟨false⟩, .join "posts" "id" "userId", .limit 1, .selectAs [("what", "title")],
    .limit 5, .offset 2]

theorem superseded_normalForm : ∃ query,
    (root sampleRegistry).run supersededSteps = .ok query ∧
      Step.essential supersededSteps =
        [.fromTable "users", .withOptions ⟨false⟩, .join "posts" "id" "userId",
          .selectAs [("what", "title")], .limit 5, .offset 2] ∧
      query = described sampleRegistry supersededSteps ∧
      (root sampleRegistry).run (Step.essential supersededSteps) = .ok query := by
  obtain ⟨query, reached⟩ : ∃ query,
      (root sampleRegistry).run supersededSteps = .ok query := ⟨_, rfl⟩
  exact ⟨query, reached, rfl,
    run_normalForm sampleRegistry supersededSteps query reached⟩

end Query

end TypedSelect
