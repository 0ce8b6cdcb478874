import TypedSelect.Proofs.JoinOrder

/-! Clauses in any order. A step for a clause looks at nothing but the columns in scope, and no
other clause changes these; so two such steps of different kinds succeed in either order or in none,
with one result. A join only brings more columns, and so does not undo what was accepted before. -/
namespace TypedSelect

/-- A step for a clause or for the options: it neither chooses a base table nor joins one. -/
def Step.IsClause (step : Step) : Prop :=
  step.kind ≠ .table ∧ step.kind ≠ .join

namespace Query

theorem sameIn_symm (kind : StepKind) (first second : Query) (same : SameIn kind first second) :
    SameIn kind second first := by
  cases kind with
  | join => exact ⟨same.1.symm, same.2.symm⟩
  | _ => exact Eq.symm same

theorem scope_effect (query : Query) (step : Step) (clause : step.IsClause) :
    (query.effect step).scope = query.scope := by
  obtain ⟨sameScope, _⟩ := effect_frame query step .join clause.1 (Ne.symm clause.2)
  exact sameScope.symm

/-- What the second of two steps is not about comes from the first one, in either order. -/
private theorem effect_second (query : Query) (first second : Step) (kind : StepKind)
    (chosen : second.kind ≠ .table) (elsewhere : kind ≠ second.kind) :
    SameIn kind ((query.effect first).effect second) ((query.effect second).effect first) := by
  have last := effect_frame (query.effect first) second kind chosen elsewhere
  have before := effect_frame query second kind chosen elsewhere
  have after := effect_same query (query.effect second) first kind rfl before
  exact sameIn_trans kind _ _ _ (sameIn_symm kind _ _ last) after

theorem effect_comm (query : Query) (first second : Step) (chosen : first.kind ≠ .table)
    (chosen' : second.kind ≠ .table) (apart : first.kind ≠ second.kind) :
    (query.effect first).effect second = (query.effect second).effect first := by
  refine eq_of_agree_nil _ _ ⟨rfl, fun kind _ => ?_⟩
  -- No part is what both steps are about, so one of them leaves it to the other.
  by_cases elsewhere : kind = second.kind
  · have notFirst : kind ≠ first.kind := elsewhere ▸ Ne.symm apart
    exact sameIn_symm kind _ _ (effect_second query second first kind chosen notFirst)
  · exact effect_second query first second kind chosen' elsewhere

/-- A clause that was accepted is accepted wherever all the columns keep their types. -/
theorem apply_wider (query wider next : Query) (step : Step) (clause : step.IsClause)
    (kept : ∀ column type, query.scope.typeOf? column = some type →
      wider.scope.typeOf? column = some type)
    (applied : query.apply step = .ok next) : wider.apply step = .ok (wider.effect step) := by
  have known := query.scope.known_kept wider.scope kept
  suffices accepted : ∃ result, wider.apply step = .ok result by
    obtain ⟨result, succeeded⟩ := accepted
    rw [succeeded, apply_effect wider result step clause.1 succeeded]
  cases step with
  | withOptions _ | limit _ | offset _ => exact ⟨_, rfl⟩
  | fromTable _ => exact absurd rfl clause.1
  | join _ _ _ => exact absurd rfl clause.2
  | select columns =>
    obtain ⟨selected, _⟩ := (select_ok query next columns).mp applied
    exact ⟨_, (select_ok wider _ columns).mpr
      ⟨fun column member => known column (selected column member), rfl⟩⟩
  | selectAs pairs =>
    obtain ⟨passed, _⟩ := (selectAs_ok query next pairs).mp applied
    obtain ⟨selected, distinct⟩ := (labelFault?_none query.scope [] pairs).mp passed
    have passed' : labelFault? wider.scope [] pairs = none :=
      (labelFault?_none wider.scope [] pairs).mpr
        ⟨fun pair member => ⟨known pair.2 (selected pair member).1, List.not_mem_nil⟩, distinct⟩
    exact ⟨_, (selectAs_ok wider _ pairs).mpr ⟨passed', rfl⟩⟩
  | filter conditions =>
    obtain ⟨passed, _⟩ := (filter_ok query next conditions).mp applied
    exact ⟨_, (filter_ok wider _ conditions).mpr ⟨fun condition member =>
      conditionFault?_kept query.scope wider.scope kept condition (passed condition member), rfl⟩⟩
  | order order =>
    obtain ⟨ordered, _⟩ := (order_ok query next order).mp applied
    exact ⟨_, (order_ok wider _ order).mpr ⟨known order.column ordered, rfl⟩⟩

theorem run_pair (query last : Query) (first second : Step) (clause : first.IsClause)
    (clause' : second.IsClause) :
    query.run [first, second] = .ok last ↔ (∃ next, query.apply first = .ok next) ∧
      (∃ next, query.apply second = .ok next) ∧ last = (query.effect first).effect second := by
  have sameScope := scope_effect query first clause
  rw [run_cons]
  simp only [run_singleton]
  constructor
  · rintro ⟨next, applied, applied'⟩
    obtain rfl := apply_effect query next first clause.1 applied
    have direct := apply_wider (query.effect first) query last second clause'
      (fun _ _ => sameScope ▸ id) applied'
    exact ⟨⟨_, applied⟩, ⟨_, direct⟩, apply_effect _ last second clause'.1 applied'⟩
  · rintro ⟨⟨next, applied⟩, ⟨other, applied'⟩, rfl⟩
    obtain rfl := apply_effect query next first clause.1 applied
    exact ⟨_, applied, apply_wider query (query.effect first) other second clause'
      (fun _ _ => sameScope ▸ id) applied'⟩

/-- Whether a join is refused, and why, depends on the registry and the scope only. -/
theorem join_failure_congr (query other : Query) (table left right : String) (error : QueryError)
    (registry : other.registry = query.registry) (scope : other.scope = query.scope) :
    query.join table left right = .error error ↔ other.join table left right = .error error := by
  rw [join_failure, join_failure, registry, scope]

theorem typeOf?_joined (query joined : Query) (join : JoinClause)
    (applied : query.apply join.step = .ok joined) (column : String) (type : ColumnType)
    (known : query.scope.typeOf? column = some type) : joined.scope.typeOf? column = some type := by
  obtain ⟨table, _, _, _, _, rfl⟩ :=
    (join_ok query joined join.table join.left join.right).mp applied
  exact query.scope.typeOf?_widened_of_some table column type known

theorem join_past_clause (query next joined : Query) (clause : Step) (join : JoinClause)
    (isClause : clause.IsClause) (applied : query.apply clause = .ok next)
    (succeeded : query.apply join.step = .ok joined) :
    ∃ last, joined.apply clause = .ok last ∧ next.apply join.step = .ok last := by
  have kept := typeOf?_joined query joined join succeeded
  have later := apply_wider query joined next clause isClause kept applied
  obtain rfl := apply_effect query next clause isClause.1 applied
  have sameScope := scope_effect query clause isClause
  obtain ⟨last, earlier⟩ := apply_elsewhere query (query.effect clause) joined join.step rfl
    (fun _ _ => sameScope) succeeded
  obtain rfl := apply_effect query joined join.step nofun succeeded
  obtain rfl := apply_effect (query.effect clause) last join.step nofun earlier
  refine ⟨_, later, ?_⟩
  rw [earlier, effect_comm query clause join.step isClause.1 nofun isClause.2]

/-- Two steps for clauses of different kinds succeed in either order if each succeeds alone, and
then lead to one query. A clause that is accepted before a join is accepted after it, with the same
result, and does not change whether the join succeeds or what error it gives. -/
theorem clauses_independent (query : Query) :
    (∀ first second : Step, first.IsClause → second.IsClause → first.kind ≠ second.kind →
      ((∃ last, query.run [first, second] = .ok last) ↔
          (∃ next, query.apply first = .ok next) ∧ ∃ next, query.apply second = .ok next) ∧
        ∀ last, query.run [first, second] = .ok last ↔ query.run [second, first] = .ok last) ∧
      ∀ (clause : Step) (next : Query) (join : JoinClause), clause.IsClause →
        query.apply clause = .ok next →
          (∀ error, query.apply join.step = .error error ↔ next.apply join.step = .error error) ∧
          ∀ joined, query.apply join.step = .ok joined →
            ∃ last, joined.apply clause = .ok last ∧ next.apply join.step = .ok last := by
  refine ⟨fun first second clause clause' apart => ⟨?_, fun last => ?_⟩, ?_⟩
  · simp only [run_pair query _ first second clause clause']
    simp
  · rw [run_pair query last first second clause clause',
      run_pair query last second first clause' clause,
      effect_comm query first second clause.1 clause'.1 apart]
    tauto
  · intro clause next join isClause applied
    refine ⟨fun error => ?_, fun joined =>
      join_past_clause query next joined clause join isClause applied⟩
    have sameScope := scope_effect query clause isClause
    obtain rfl := apply_effect query next clause isClause.1 applied
    exact join_failure_congr query _ join.table join.left join.right error rfl sameScope

def idFilter : Step := .filter [⟨"id", .literal (.int 1)⟩]

theorem filter_past_join : ∃ query next joined last,
    (root sampleRegistry).run [.fromTable "users"] = .ok query ∧
      query.apply idFilter = .ok next ∧ query.apply (.join "posts" "id" "userId") = .ok joined ∧
      joined.apply idFilter = .ok last ∧ next.apply (.join "posts" "id" "userId") = .ok last ∧
      query.run [idFilter, .limit 2] = query.run [.limit 2, idFilter] := by
  obtain ⟨query, next, joined, limited, reached, applied, succeeded, ran⟩ :
      ∃ query next joined limited, (root sampleRegistry).run [.fromTable "users"] = .ok query ∧
        query.apply idFilter = .ok next ∧ query.apply (.join "posts" "id" "userId") = .ok joined ∧
        query.run [idFilter, .limit 2] = .ok limited := ⟨_, _, _, _, rfl, rfl, rfl, rfl⟩
  obtain ⟨swapped, joins⟩ := clauses_independent query
  obtain ⟨last, later, earlier⟩ := (joins idFilter next ⟨"posts", "id", "userId"⟩ ⟨nofun, nofun⟩
    applied).2 joined succeeded
  have same := (swapped idFilter (.limit 2) ⟨nofun, nofun⟩ ⟨nofun, nofun⟩ nofun).2 limited
  exact ⟨query, next, joined, last, reached, applied, succeeded, later, earlier,
    ran.trans (same.mp ran).symm⟩

end Query

end TypedSelect
