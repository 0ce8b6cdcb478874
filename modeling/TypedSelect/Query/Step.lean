import TypedSelect.Query.Basic

/-! The steps of building a query as data, and runs of them. -/
namespace TypedSelect

inductive Step where
  | withOptions (options : QueryOptions)
  | fromTable (table : String)
  | select (columns : List String)
  | selectAs (pairs : List (String × String))
  | filter (conditions : List Condition)
  | join (table left right : String)
  | order (order : OrderBy)
  | limit (count : UInt64)
  | offset (count : UInt64)
deriving DecidableEq

namespace Query

def apply (query : Query) : Step → Except QueryError Query
  | .withOptions options => .ok (query.withOptions options)
  | .fromTable table => query.fromTable table
  | .select columns => query.select columns
  | .selectAs pairs => query.selectAs pairs
  | .filter conditions => query.filter conditions
  | .join table left right => query.join table left right
  | .order order => query.order order
  | .limit count => .ok (query.withLimit count)
  | .offset count => .ok (query.withOffset count)

/-- Takes all steps in turn, up to the first that fails. -/
def run (query : Query) (steps : List Step) : Except QueryError Query :=
  steps.foldlM apply query

end Query

end TypedSelect
