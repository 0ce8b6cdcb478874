import TypedSelect.Declaration.DerivedTable
import TypedSelect.Form.Options
import TypedSelect.Form.Result
import TypedSelect.Form.Statement
import TypedSelect.Json.Reader
import TypedSelect.Json.Writer
import TypedSelect.Proofs.AccessorNames
import TypedSelect.Proofs.AttributeItems
import TypedSelect.Proofs.CanonicalOperators
import TypedSelect.Proofs.CheckOutcome
import TypedSelect.Proofs.ClauseGrammar
import TypedSelect.Proofs.DecodedStatement
import TypedSelect.Proofs.DerivationOutcome
import TypedSelect.Proofs.DerivedColumns
import TypedSelect.Proofs.EqualityForms
import TypedSelect.Proofs.Execution
import TypedSelect.Proofs.FilterOutcome
import TypedSelect.Proofs.Independence
import TypedSelect.Proofs.JoinOrder
import TypedSelect.Proofs.JoinOutcome
import TypedSelect.Proofs.LiteralReading
import TypedSelect.Proofs.LooseForm
import TypedSelect.Proofs.MalformedSets
import TypedSelect.Proofs.NormalForm
import TypedSelect.Proofs.OutputShape
import TypedSelect.Proofs.Placeholders
import TypedSelect.Proofs.ProjectionOutcome
import TypedSelect.Proofs.Rebuild
import TypedSelect.Proofs.Registration
import TypedSelect.Proofs.RowForm
import TypedSelect.Proofs.SameForm
import TypedSelect.Proofs.ScopeErrors
import TypedSelect.Proofs.SelectionOutcome
import TypedSelect.Proofs.SnakeCase
import TypedSelect.Proofs.StatementForm
import TypedSelect.Proofs.StrictMode
import TypedSelect.Proofs.Tableless
import TypedSelect.Proofs.UniqueReading
import TypedSelect.Proofs.WellTyped
import TypedSelect.Query.Step
import TypedSelect.Result.Execution
