import TypedSelect.Query.Scope
import TypedSelect.Statement.Sql

/-! Queries under construction. Every step gives a new query and checks the names and values
it brings against the columns in scope; the query before it stays as it is. -/
namespace TypedSelect

structure QueryOptions where
  requireColumns : Bool
deriving DecidableEq, Repr

def QueryOptions.default : QueryOptions := ⟨false⟩

inductive Selection where
  | all
  | columns (names : List String)
  | labelled (pairs : List (String × String))
deriving DecidableEq, Repr

def Selection.selectColumns : Selection → List SelectColumn
  | .all => []
  | .columns names => names.map fun column => ⟨column, none⟩
  | .labelled pairs => pairs.map fun (label, column) => ⟨column, some label⟩

/-- Sets the condition on a column, in place of the one there is. -/
def Condition.put (condition : Condition) : List Condition → List Condition
  | [] => [condition]
  | other :: rest =>
    if other.column = condition.column then condition :: rest
    else other :: condition.put rest

structure Query where
  registry : Registry
  options : QueryOptions
  table : Option String
  scope : Scope
  selection : Selection
  conditions : List Condition
  orderBy : Option OrderBy
  limit : Option UInt64
  offset : Option UInt64
  joins : List JoinClause

namespace Query

def root (registry : Registry) : Query where
  registry := registry
  options := .default
  table := none
  scope := .empty
  selection := .all
  conditions := []
  orderBy := none
  limit := none
  offset := none
  joins := []

def withOptions (query : Query) (options : QueryOptions) : Query :=
  { query with options := options }

/-- Chooses the base table. Of the query before only the options remain. -/
def fromTable (query : Query) (table : String) : Except QueryError Query :=
  match query.registry.table? table with
  | some found => .ok { (root query.registry).withOptions query.options with
      table := some table
      scope := .ofTable found }
  | none => .error (.schema (.unknownTable table))

/-- Selects columns, all of them if none are named. -/
def select (query : Query) (columns : List String) : Except QueryError Query :=
  match columns.find? fun column => (query.scope.typeOf? column).isNone with
  | some column => .error (query.scope.unknownColumn column)
  | none => .ok { query with
      selection := if columns.isEmpty then .all else .columns columns }

def labelFault? (scope : Scope) (taken : List String) :
    List (String × String) → Option QueryError
  | [] => none
  | (label, column) :: rest =>
    if (scope.typeOf? column).isNone then some (scope.unknownColumn column)
    else if label ∈ taken then some (.schema (.duplicateAlias label))
    else labelFault? scope (label :: taken) rest

/-- Selects columns under labels, all columns if there are no pairs. -/
def selectAs (query : Query) (pairs : List (String × String)) : Except QueryError Query :=
  match labelFault? query.scope [] pairs with
  | some error => .error error
  | none => .ok { query with
      selection := if pairs.isEmpty then .all else .labelled pairs }

def conditionFault? (scope : Scope) (condition : Condition) : Option QueryError :=
  match scope.typeOf? condition.column with
  | some type => (condition.restriction.fault? type).map (.ofFault condition.column type)
  | none => some (scope.unknownColumn condition.column)

/-- Replaces all conditions. Of several on one column the last counts, in the place of the
first. -/
def filter (query : Query) (conditions : List Condition) : Except QueryError Query :=
  match conditions.findSome? (conditionFault? query.scope) with
  | some error => .error error
  | none => .ok { query with
      conditions := conditions.foldl (fun kept condition => condition.put kept) [] }

/-- Joins a table on equality of a column in scope with one of its own. -/
def join (query : Query) (table left right : String) : Except QueryError Query :=
  match query.registry.table? table with
  | none => .error (.schema (.unknownJoinTable table query.scope.describe))
  | some joined => do
    let _ ← query.scope.require left
    if (joined.columnType? right).isNone then
      .error (.schema (.unknownColumn right table))
    else
      let scope ← query.scope.join joined
      .ok { query with
        scope := scope
        joins := query.joins ++ [⟨table, left, right⟩] }

def order (query : Query) (order : OrderBy) : Except QueryError Query := do
  let _ ← query.scope.require order.column
  .ok { query with orderBy := some order }

def withLimit (query : Query) (count : UInt64) : Query :=
  { query with limit := some count }

def withOffset (query : Query) (count : UInt64) : Query :=
  { query with offset := some count }

def toStatement (query : Query) : Except QueryError Statement :=
  match query.table with
  | none => .error .missingTable
  | some table =>
    if query.options.requireColumns ∧ query.selection = .all then
      .error (.missingColumns table)
    else .ok {
      table := table
      columns := query.selection.selectColumns
      conditions := query.conditions
      orderBy := query.orderBy
      limit := query.limit
      offset := query.offset
      joins := query.joins }

def sql (query : Query) : Except QueryError String :=
  query.toStatement.map Statement.sql

def parameterized (query : Query) : Except QueryError (String × List Value) :=
  query.toStatement.map Statement.parameterized

end Query

end TypedSelect
