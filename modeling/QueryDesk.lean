import QueryDesk.Value.Json
import QueryDesk.Value.Cell
import QueryDesk.Sql.Warning
import QueryDesk.Sql.Surface
import QueryDesk.Sql.Parameter
import QueryDesk.Document.Issue
import QueryDesk.Document.Reading
import QueryDesk.Page.Directive
import QueryDesk.Page.Paging
import QueryDesk.Connection.Adapter
import QueryDesk.Catalog.Pool
import QueryDesk.Catalog.Schema
import QueryDesk.Catalog.Engine
import QueryDesk.Catalog.Introspection
import QueryDesk.Catalog.Document
import QueryDesk.Page.Document
import QueryDesk.Digest.Sha256
import QueryDesk.Service.Audit
import QueryDesk.Service.EnvFile
import QueryDesk.Service.Logging
import QueryDesk.Service.Outcome
import QueryDesk.Service.Settings
import QueryDesk.Grammar.Tree
import QueryDesk.Validation.Report
import QueryDesk.Validation.Statements
import QueryDesk.Grammar.Layout
import QueryDesk.Grammar.Token
import QueryDesk.Grammar.Parse
import QueryDesk.Service.Query
import QueryDesk.CommandLine.Help
import QueryDesk.CommandLine.Program
import QueryDesk.Main
import QueryDesk.Proofs.Page.Count
import QueryDesk.Proofs.Page.Composition
import QueryDesk.Proofs.Page.Bounded
import QueryDesk.Proofs.Page.Retoken
import QueryDesk.Proofs.Sql.Splice
import QueryDesk.Proofs.Sql.Cut
import QueryDesk.Proofs.Sql.Masking
import QueryDesk.Proofs.Sql.Quoting
import QueryDesk.Proofs.Sql.Literal
import QueryDesk.Proofs.Page.OffsetKept
import QueryDesk.Proofs.Page.Planned
import QueryDesk.Proofs.Page.Rewritten
import QueryDesk.Proofs.Page.Stability
import QueryDesk.Proofs.Service.Sending
import QueryDesk.Proofs.Service.Stacked
import QueryDesk.Proofs.Service.Walk
import QueryDesk.Proofs.Catalog.Determined
import QueryDesk.Proofs.Page.ServerBound
import QueryDesk.Proofs.Catalog.Course
import QueryDesk.Proofs.Catalog.Partial
import QueryDesk.Proofs.Catalog.Accounts
import QueryDesk.Proofs.Catalog.Omissions
import QueryDesk.Proofs.Catalog.Exhaustion
import QueryDesk.Proofs.Catalog.Deadline
import QueryDesk.Proofs.Catalog.Workers
import QueryDesk.Proofs.Catalog.Respelling
import QueryDesk.Proofs.Connection.Forms
import QueryDesk.Proofs.Connection.Placeholders
import QueryDesk.Proofs.Connection.Columns
import QueryDesk.Proofs.Connection.Threads
import QueryDesk.Proofs.Service.Audited
import QueryDesk.Proofs.Validation.WellFormed
import QueryDesk.Proofs.Validation.ReadOnly
import QueryDesk.Proofs.Service.AuditLines
import QueryDesk.Proofs.Text.Splitting
import QueryDesk.Proofs.Catalog.ArrayText
import QueryDesk.Proofs.Catalog.KeyColumns
import QueryDesk.Proofs.Service.Fingerprint
import QueryDesk.Proofs.Number.Ceiling
import QueryDesk.Proofs.Page.Numbering
import QueryDesk.Proofs.Sql.LineColumn
import QueryDesk.Proofs.Catalog.Lookup
import QueryDesk.Proofs.Sql.NamedParameter
import QueryDesk.Proofs.Sql.Relaid
import QueryDesk.Proofs.Validation.Parameters
import QueryDesk.Proofs.Page.Split
import QueryDesk.Proofs.Document.ReadBack
import QueryDesk.Proofs.Sql.Enclosure
