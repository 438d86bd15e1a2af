import ColumnLineage.Text.Blank
import ColumnLineage.Text.Label
import ColumnLineage.Text.Letter
import ColumnLineage.Text.LetterCase
import ColumnLineage.Sql.Token
import ColumnLineage.Sql.Lexis
import ColumnLineage.Sql.Lexer
import ColumnLineage.Sql.Tree
import ColumnLineage.Sql.Visit
import ColumnLineage.Sql.Vocabulary
import ColumnLineage.Sql.Written
import ColumnLineage.Sql.Rules
import ColumnLineage.Sql.Dialect
import ColumnLineage.Sql.Parser
import ColumnLineage.Sql.Grammar.Name
import ColumnLineage.Sql.Grammar.DataType
import ColumnLineage.Sql.Grammar.Call
import ColumnLineage.Sql.Grammar.Expr
import ColumnLineage.Sql.Grammar.Source
import ColumnLineage.Sql.Grammar.Select
import ColumnLineage.Sql.Grammar.Change
import ColumnLineage.Sql.Grammar.Query
import ColumnLineage.Sql.Grammar.Block
import ColumnLineage.Sql.Grammar.Column
import ColumnLineage.Sql.Grammar.Definition
import ColumnLineage.Sql.Grammar.Catalog
import ColumnLineage.Sql.Grammar.Warehouse
import ColumnLineage.Sql.Grammar.Routine
import ColumnLineage.Sql.Grammar.Creation
import ColumnLineage.Sql.Grammar.Alteration
import ColumnLineage.Sql.Grammar.Administration
import ColumnLineage.Sql.Grammar.Command
import ColumnLineage.Sql.Grammar.Statement
import ColumnLineage.Sql.Grammar
import ColumnLineage.Sql.Reader
import ColumnLineage.Lineage.Remark
import ColumnLineage.Lineage.Row
import ColumnLineage.Lineage.ColumnRef
import ColumnLineage.Lineage.Projection
import ColumnLineage.Lineage.TableKey
import ColumnLineage.Lineage.CteCatalog
import ColumnLineage.Lineage.Scope
import ColumnLineage.Lineage.Resolution
import ColumnLineage.Lineage.Attribution
import ColumnLineage.Lineage.Traversal
import ColumnLineage.Lineage.Extractor
import ColumnLineage.Json.Double
import ColumnLineage.Json.Value
import ColumnLineage.Json.Reader
import ColumnLineage.Json.Written
import ColumnLineage.Json.Decode
import ColumnLineage.Text.Quoted
import ColumnLineage.Lineage.Wire
import ColumnLineage.Service.QueryKind
import ColumnLineage.Service.ViewQuery
import ColumnLineage.Service.Request
import ColumnLineage.Service.Envelope
import ColumnLineage.Service.Batch
import ColumnLineage.Http.MediaType
import ColumnLineage.Http.Body
import ColumnLineage.Http.Server
import ColumnLineage.Yaml.Fault
import ColumnLineage.Yaml.Cursor
import ColumnLineage.Yaml.Token
import ColumnLineage.Yaml.Scalar
import ColumnLineage.Yaml.Lexer
import ColumnLineage.Yaml.Node
import ColumnLineage.Yaml.Decode
import ColumnLineage.Service.Config
import ColumnLineage.Storage.Files
import ColumnLineage.Command.Arguments
import ColumnLineage.Command.Help
import ColumnLineage.Command.Table
import ColumnLineage.Command.SocketAddress
import ColumnLineage.Command.Run
import ColumnLineage.Main
import ColumnLineage.Proofs.References
import ColumnLineage.Proofs.Catalog
import ColumnLineage.Proofs.Sources
import ColumnLineage.Proofs.Reach
import ColumnLineage.Proofs.Provenance
import ColumnLineage.Proofs.Emission
import ColumnLineage.Proofs.SingleSource
import ColumnLineage.Proofs.Agreement
import ColumnLineage.Proofs.Isolation
import ColumnLineage.Proofs.Ambiguity
import ColumnLineage.Proofs.Nesting
import ColumnLineage.Proofs.Coverage
import ColumnLineage.Proofs.Filters
import ColumnLineage.Proofs.Qualifiers
import ColumnLineage.Proofs.Reachability
import ColumnLineage.Proofs.WithScope
import ColumnLineage.Proofs.Bases
import ColumnLineage.Proofs.Output
import ColumnLineage.Proofs.Coherence
import ColumnLineage.Proofs.Failures
import ColumnLineage.Proofs.Batches
import ColumnLineage.Proofs.DepthBound
import ColumnLineage.Proofs.JoinPredicates
import ColumnLineage.Proofs.Embedding
import ColumnLineage.Proofs.SelectLists
import ColumnLineage.Proofs.Renaming
import ColumnLineage.Proofs.RenamedTraversal
import ColumnLineage.Proofs.RenamedScopes
import ColumnLineage.Proofs.Equivariance
import ColumnLineage.Proofs.InvalidAliases
import ColumnLineage.Proofs.Ownership
import ColumnLineage.Proofs.Equalities
import ColumnLineage.Proofs.JoinedSides
import ColumnLineage.Proofs.JsonTexts
import ColumnLineage.Proofs.Datasets
import ColumnLineage.Proofs.NormalForm
import ColumnLineage.Proofs.Views
import ColumnLineage.Proofs.Commands
import ColumnLineage.Proofs.ParserRuns
import ColumnLineage.Proofs.WrappedTexts
import ColumnLineage.Proofs.WrappedQueries
import ColumnLineage.Proofs.ParserBudget
import ColumnLineage.Proofs.Positions
import ColumnLineage.Proofs.Shapes
import ColumnLineage.Proofs.WireForm
