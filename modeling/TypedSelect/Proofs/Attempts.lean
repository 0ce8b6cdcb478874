import TypedSelect.Proofs.Run

/-! Runs in which steps may fail. A step that fails leaves the query as it was, so that such a run
ends where the run of those of its steps ends that succeeded. -/
namespace TypedSelect.Query

/-- The query after a step, which stays as it was if the step fails. -/
def attempt (query : Query) (step : Step) : Query :=
  match query.apply step with
  | .ok next => next
  | .error _ => query

def attempts (query : Query) (steps : List Step) : Query :=
  steps.foldl attempt query

/-- Those of the attempted steps that succeed, each on the query that it finds. -/
def succeeded (query : Query) : List Step → List Step
  | [] => []
  | step :: rest =>
    match query.apply step with
    | .ok next => step :: next.succeeded rest
    | .error _ => query.succeeded rest

theorem attempts_cons_ok (query next : Query) (step : Step) (rest : List Step)
    (applied : query.apply step = .ok next) :
    query.attempts (step :: rest) = next.attempts rest ∧
      query.succeeded (step :: rest) = step :: next.succeeded rest := by
  simp [attempts, attempt, succeeded, applied]

theorem attempts_cons_error (query : Query) (step : Step) (rest : List Step) (error : QueryError)
    (failed : query.apply step = .error error) :
    query.attempts (step :: rest) = query.attempts rest ∧
      query.succeeded (step :: rest) = query.succeeded rest := by
  simp [attempts, attempt, succeeded, failed]

/-- The steps that succeeded, run alone, all succeed again and end in the same query. -/
theorem run_succeeded (query : Query) (steps : List Step) :
    query.run (query.succeeded steps) = .ok (query.attempts steps) := by
  induction steps generalizing query with
  | nil => exact (run_nil query query).mpr rfl
  | cons step rest ih =>
    cases applied : query.apply step with
    | ok next =>
      obtain ⟨ends, kept⟩ := attempts_cons_ok query next step rest applied
      rw [ends, kept]
      exact (run_cons query _ step _).mpr ⟨next, applied, ih next⟩
    | error error =>
      obtain ⟨ends, kept⟩ := attempts_cons_error query step rest error applied
      rw [ends, kept]
      exact ih query

end TypedSelect.Query
