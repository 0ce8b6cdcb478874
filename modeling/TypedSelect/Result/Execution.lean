import TypedSelect.Result.Row

/-! Executing a query by an engine within a time limit. The engine is given by how long it
takes and what it then answers. -/
namespace TypedSelect

structure ExecuteOptions where
  timeout : UInt64
deriving DecidableEq, Repr

def ExecuteOptions.default : ExecuteOptions := ⟨30000⟩

structure Engine (Failure : Type) where
  delay : Nat
  answer : Statement → Except Failure (List RawRow)

inductive ExecuteError (Failure : Type) where
  | query (error : QueryError)
  | engine (failure : Failure)
  | timeout (limit : UInt64)
  | rowShape (error : RowShapeError)

/-- The statements that an engine was handed, and what came of it. -/
structure Execution (Failure : Type) where
  received : List Statement
  outcome : Except (ExecuteError Failure) (List Row)

namespace Engine

/-- The answer to a statement within the limit. An engine that is ready exactly at the limit
is in time. -/
def answerWithin {Failure : Type} (engine : Engine Failure) (limit : UInt64)
    (statement : Statement) : Except (ExecuteError Failure) (List RawRow) :=
  if limit.toNat < engine.delay then .error (.timeout limit)
  else (engine.answer statement).mapError .engine

end Engine

/-- Sends a query's statement to an engine and projects the rows it returns. A query without
a statement is not sent. -/
def Query.execute {Failure : Type} (query : Query) (engine : Engine Failure)
    (options : ExecuteOptions) : Execution Failure :=
  match query.toStatement, query.resultShape with
  | .error error, _ => ⟨[], .error (.query error)⟩
  | .ok _, .error error => ⟨[], .error (.query error)⟩
  | .ok statement, .ok shape =>
    ⟨[statement], do
      let rows ← engine.answerWithin options.timeout statement
      (rows.mapM shape.project).mapError .rowShape⟩

/-- A time span of milliseconds: in milliseconds below a second, in seconds with as many
places as are exact from there on. -/
def timeSpanText (milliseconds : Nat) : String :=
  if milliseconds = 0 then "0ns"
  else if milliseconds < 1000 then s!"{milliseconds}ms"
  else
    let places := (Number.padded 3 (milliseconds % 1000)).reverse.dropWhile (· == '0')
    let fraction := if places.isEmpty then [] else '.' :: places.reverse
    String.ofList (Number.digits (milliseconds / 1000) ++ fraction ++ ['s'])

def ExecuteError.message {Failure : Type} (describe : Failure → String) :
    ExecuteError Failure → String
  | .query error => error.message
  | .engine failure => s!"execution engine failed: {describe failure}"
  | .timeout limit => s!"execution timed out after {timeSpanText limit.toNat}"
  | .rowShape error => error.message

end TypedSelect
