import PolySql.Document.Scenario
import PolySql.Document.Schema
import PolySql.Proofs.Batch.Insertion
import PolySql.Proofs.Batch.Updating
import PolySql.Proofs.Catalog.Growth
import PolySql.Proofs.Column.Decoding
import PolySql.Proofs.Query.Folding
import PolySql.Proofs.Query.FunctionResults
import PolySql.Proofs.Query.Joins
import PolySql.Proofs.Query.Paging
import PolySql.Proofs.Query.ResultTypes
import PolySql.Proofs.Query.Untyped
import PolySql.Proofs.Schema.ConstraintNames
import PolySql.Proofs.Schema.Grouping
import PolySql.Proofs.Schema.Introspection
import PolySql.Proofs.Schema.PrimaryKey
import PolySql.Proofs.Schema.TableStore
import PolySql.Proofs.Sql.Affixes
import PolySql.Proofs.Sql.Conditions
import PolySql.Proofs.Sql.Literal
import PolySql.Proofs.Sql.Naming
import PolySql.Proofs.Sql.Upgrade
import PolySql.Proofs.Statement.Appending
import PolySql.Proofs.Statement.CompositeKey
import PolySql.Proofs.Statement.Gaps
import PolySql.Proofs.Statement.NullCell
import PolySql.Proofs.Statement.Strays
import PolySql.Proofs.Statement.SubSelects
import PolySql.Proofs.Text.Banner
import PolySql.Proofs.Transaction.Agreement
import PolySql.Proofs.Transaction.Attempt
import PolySql.Proofs.Transaction.Attempts
import PolySql.Proofs.Transaction.Discipline
import PolySql.Proofs.Transaction.Durability
import PolySql.Proofs.Transaction.Hooks
import PolySql.Proofs.Transaction.Outcomes
import PolySql.Proofs.Transaction.Presence
import PolySql.Proofs.Transaction.Refreshing
import PolySql.Proofs.Transaction.Refusal
import PolySql.Proofs.Transaction.Retrying
import PolySql.Proofs.Transaction.SuppliedKey
