import TypedSelect.Proofs.OutputShape
import TypedSelect.Proofs.Projection
import TypedSelect.Result.Execution

/-! What comes of executing a query. A query without a statement is never sent. Any other is sent
once; of what can then go wrong the time limit counts before the engine's failure, and that before
the rows. Rows come out all together, in the engine's order, or not at all. -/
namespace TypedSelect

theorem mapError_success {ε ε' α : Type} (first : Except ε α) (next : ε → ε') (value : α) :
    first.mapError next = .ok value ↔ first = .ok value := by
  cases first <;> simp [Except.mapError]

theorem mapError_failure {ε ε' α : Type} (first : Except ε α) (next : ε → ε') (error : ε') :
    first.mapError next = .error error ↔ ∃ fault, first = .error fault ∧ error = next fault := by
  cases first with
  | error fault => simp [Except.mapError, eq_comm]
  | ok value => simp [Except.mapError]

namespace ResultShape

theorem projectAll_ok (shape : ResultShape) (raws : List RawRow) (rows : List Row) :
    raws.mapM shape.project = .ok rows ↔ List.Forall₂ shape.Projects raws rows := by
  rw [mapM_ok]
  simp only [project_ok]

theorem projectAll_failure (shape : ResultShape) (raws : List RawRow) (error : RowShapeError) :
    raws.mapM shape.project = .error error ↔
      ∃ raw, FirstFailing (fun raw => ∃ row, shape.Projects raw row) raws raw ∧
        shape.Misfits raw error := by
  rw [mapM_failure]
  simp only [project_ok, project_failure]

end ResultShape

section Outcomes

variable {Failure : Type}

namespace Engine

theorem answerWithin_ok (engine : Engine Failure) (limit : UInt64) (statement : Statement)
    (raws : List RawRow) :
    engine.answerWithin limit statement = .ok raws ↔
      engine.delay ≤ limit.toNat ∧ engine.answer statement = .ok raws := by
  unfold answerWithin
  split
  · rename_i late
    simp [Nat.not_le.mpr late]
  · rename_i inTime
    rw [mapError_success]
    exact (and_iff_right (Nat.not_lt.mp inTime)).symm

theorem answerWithin_failure (engine : Engine Failure) (limit : UInt64) (statement : Statement)
    (error : ExecuteError Failure) :
    engine.answerWithin limit statement = .error error ↔
      (limit.toNat < engine.delay ∧ error = .timeout limit) ∨
        (engine.delay ≤ limit.toNat ∧
          ∃ failure, engine.answer statement = .error failure ∧ error = .engine failure) := by
  unfold answerWithin
  split
  · rename_i late
    simp [late, Nat.not_le.mpr late, eq_comm]
  · rename_i inTime
    rw [mapError_failure]
    simp [inTime, Nat.not_lt.mp inTime]

end Engine

namespace Query

/-- What an engine is handed for a query within a time limit, and what comes of it. -/
inductive Executes (query : Query) (engine : Engine Failure) (limit : UInt64) :
    Execution Failure → Prop
  | unsent (error : QueryError) (unfinished : query.toStatement = .error error) :
      Executes query engine limit ⟨[], .error (.query error)⟩
  | late (statement : Statement) (finished : query.toStatement = .ok statement)
      (late : limit.toNat < engine.delay) :
      Executes query engine limit ⟨[statement], .error (.timeout limit)⟩
  | failed (statement : Statement) (failure : Failure)
      (finished : query.toStatement = .ok statement) (inTime : engine.delay ≤ limit.toNat)
      (answered : engine.answer statement = .error failure) :
      Executes query engine limit ⟨[statement], .error (.engine failure)⟩
  | returned (statement : Statement) (shape : ResultShape) (raws : List RawRow) (rows : List Row)
      (finished : query.toStatement = .ok statement) (shaped : query.resultShape = .ok shape)
      (inTime : engine.delay ≤ limit.toNat) (answered : engine.answer statement = .ok raws)
      (projected : List.Forall₂ shape.Projects raws rows) :
      Executes query engine limit ⟨[statement], .ok rows⟩
  | misfit (statement : Statement) (shape : ResultShape) (raws : List RawRow) (raw : RawRow)
      (error : RowShapeError) (finished : query.toStatement = .ok statement)
      (shaped : query.resultShape = .ok shape) (inTime : engine.delay ≤ limit.toNat)
      (answered : engine.answer statement = .ok raws)
      (first : FirstFailing (fun raw => ∃ row, shape.Projects raw row) raws raw)
      (misfits : shape.Misfits raw error) :
      Executes query engine limit ⟨[statement], .error (.rowShape error)⟩

theorem resultShape_of_toStatement (query : Query) (statement : Statement)
    (finished : query.toStatement = .ok statement) : query.resultShape = .ok query.resolved := by
  obtain ⟨table, based, _, _⟩ := (toStatement_ok query statement).mp finished
  unfold resultShape
  rw [based]
  rfl

section Sent

variable (query : Query) (engine : Engine Failure) (options : ExecuteOptions)
  (statement : Statement) (finished : query.toStatement = .ok statement)

include finished

theorem execute_answered (raws : List RawRow)
    (answer : engine.answerWithin options.timeout statement = .ok raws) :
    query.execute engine options =
      ⟨[statement], (raws.mapM query.resolved.project).mapError .rowShape⟩ := by
  unfold execute
  rw [finished, resultShape_of_toStatement query statement finished]
  dsimp only
  rw [answer]
  rfl

theorem execute_unanswered (error : ExecuteError Failure)
    (answer : engine.answerWithin options.timeout statement = .error error) :
    query.execute engine options = ⟨[statement], .error error⟩ := by
  unfold execute
  rw [finished, resultShape_of_toStatement query statement finished]
  dsimp only
  rw [answer]
  rfl

end Sent

theorem execute_unsent (query : Query) (engine : Engine Failure) (options : ExecuteOptions)
    (error : QueryError) (unfinished : query.toStatement = .error error) :
    query.execute engine options = ⟨[], .error (.query error)⟩ := by
  unfold execute
  rw [unfinished]

theorem execute_executes (query : Query) (engine : Engine Failure) (options : ExecuteOptions) :
    query.Executes engine options.timeout (query.execute engine options) := by
  cases finished : query.toStatement with
  | error error =>
    rw [execute_unsent query engine options error finished]
    exact .unsent error finished
  | ok statement =>
    cases answer : engine.answerWithin options.timeout statement with
    | error error =>
      rw [execute_unanswered query engine options statement finished error answer]
      rcases (engine.answerWithin_failure _ statement error).mp answer with
        ⟨late, rfl⟩ | ⟨inTime, failure, answered, rfl⟩
      · exact .late statement finished late
      · exact .failed statement failure finished inTime answered
    | ok raws =>
      rw [execute_answered query engine options statement finished raws answer]
      have shaped := resultShape_of_toStatement query statement finished
      obtain ⟨inTime, answered⟩ := (engine.answerWithin_ok _ statement raws).mp answer
      cases projected : raws.mapM query.resolved.project with
      | ok rows =>
        have each := (query.resolved.projectAll_ok raws rows).mp projected
        exact .returned statement _ raws rows finished shaped inTime answered each
      | error error =>
        obtain ⟨raw, first, misfits⟩ := (query.resolved.projectAll_failure raws error).mp projected
        exact .misfit statement _ raws raw error finished shaped inTime answered first misfits

theorem execute_of_executes (query : Query) (engine : Engine Failure) (options : ExecuteOptions)
    (execution : Execution Failure) (executes : query.Executes engine options.timeout execution) :
    query.execute engine options = execution := by
  have resolved (statement : Statement) (shape : ResultShape)
      (finished : query.toStatement = .ok statement) (shaped : query.resultShape = .ok shape) :
      shape = query.resolved := by
    rw [resultShape_of_toStatement query statement finished] at shaped
    exact (Except.ok.inj shaped).symm
  cases executes with
  | unsent error unfinished => exact execute_unsent query engine options error unfinished
  | late statement finished late =>
    apply execute_unanswered query engine options statement finished
    exact (engine.answerWithin_failure _ statement _).mpr (.inl ⟨late, rfl⟩)
  | failed statement failure finished inTime answered =>
    apply execute_unanswered query engine options statement finished
    exact (engine.answerWithin_failure _ statement _).mpr (.inr ⟨inTime, failure, answered, rfl⟩)
  | returned statement shape raws rows finished shaped inTime answered projected =>
    obtain rfl := resolved statement shape finished shaped
    have answer := (engine.answerWithin_ok _ statement raws).mpr ⟨inTime, answered⟩
    rw [execute_answered query engine options statement finished raws answer,
      (query.resolved.projectAll_ok raws rows).mpr projected]
    rfl
  | misfit statement shape raws raw error finished shaped inTime answered first misfits =>
    obtain rfl := resolved statement shape finished shaped
    have answer := (engine.answerWithin_ok _ statement raws).mpr ⟨inTime, answered⟩
    rw [execute_answered query engine options statement finished raws answer,
      (query.resolved.projectAll_failure raws error).mpr ⟨raw, first, misfits⟩]
    rfl

/-- What comes of executing any query is settled by its statement, the time limit, the engine's
answer and the shape of the rows, in this order; where there is a statement, there is a shape. -/
theorem execution_outcome (query : Query) (engine : Engine Failure) (options : ExecuteOptions) :
    (∀ execution, query.execute engine options = execution ↔
        query.Executes engine options.timeout execution) ∧
      ∀ statement, query.toStatement = .ok statement →
        ∃ shape, query.resultShape = .ok shape := by
  refine ⟨fun execution => ⟨?_, execute_of_executes query engine options execution⟩, ?_⟩
  · rintro rfl
    exact execute_executes query engine options
  · exact fun statement finished => ⟨_, resultShape_of_toStatement query statement finished⟩

/-- An engine that returns a row without fault and one with a fault in its second field. -/
def sampleEngine (delay : Nat) : Engine String where
  delay := delay
  answer := fun _ => .ok [⟨[("id", .int 1)]⟩, ⟨[("email", .bool true), ("id", .int 2)]⟩]

theorem second_row_misfits : ∃ query statement,
    (root sampleRegistry).run [.fromTable "users"] = .ok query ∧
      query.toStatement = .ok statement ∧
      query.Executes (sampleEngine 50) 50
        ⟨[statement], .error (.rowShape ⟨"email", .string, "TRUE"⟩)⟩ ∧
      query.Executes (sampleEngine 51) 50 ⟨[statement], .error (.timeout 50)⟩ := by
  obtain ⟨query, statement, reached, finished, misfits, late⟩ : ∃ query statement,
      (root sampleRegistry).run [.fromTable "users"] = .ok query ∧
        query.toStatement = .ok statement ∧
        query.execute (sampleEngine 50) ⟨50⟩ =
          ⟨[statement], .error (.rowShape ⟨"email", .string, "TRUE"⟩)⟩ ∧
        query.execute (sampleEngine 51) ⟨50⟩ = ⟨[statement], .error (.timeout 50)⟩ :=
    ⟨_, _, rfl, rfl, rfl, rfl⟩
  exact ⟨query, statement, reached, finished,
    ((execution_outcome query (sampleEngine 50) ⟨50⟩).1 _).mp misfits,
    ((execution_outcome query (sampleEngine 51) ⟨50⟩).1 _).mp late⟩

end Query

end Outcomes

end TypedSelect
