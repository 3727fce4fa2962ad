import SparseFields.Json.Basic
import SparseFields.Json.Draft
import SparseFields.Json.Printer
import SparseFields.Json.Token
import SparseFields.Naming.Rules
import SparseFields.Naming.Singular
import SparseFields.Number.Basic
import SparseFields.Number.Double
import SparseFields.Number.Literal
import SparseFields.Number.Shortest
import SparseFields.Number.Width
import SparseFields.Proofs.Json.Equality
import SparseFields.Proofs.Json.Reading
import SparseFields.Proofs.Json.Writing
import SparseFields.Proofs.Naming.Conventions
import SparseFields.Proofs.Naming.Inflection
import SparseFields.Proofs.Naming.Keys
import SparseFields.Proofs.Naming.LastWord
import SparseFields.Proofs.Number.Literal
import SparseFields.Proofs.Number.Rounding
import SparseFields.Proofs.Number.Text
import SparseFields.Proofs.Reduction.Blame
import SparseFields.Proofs.Reduction.Elements
import SparseFields.Proofs.Reduction.Failures
import SparseFields.Proofs.Reduction.Fields
import SparseFields.Proofs.Reduction.Following
import SparseFields.Proofs.Reduction.Forgiving
import SparseFields.Proofs.Reduction.Joins
import SparseFields.Proofs.Reduction.Limits
import SparseFields.Proofs.Reduction.Links
import SparseFields.Proofs.Reduction.Lockstep
import SparseFields.Proofs.Reduction.Nodes
import SparseFields.Proofs.Reduction.Order
import SparseFields.Proofs.Reduction.Pruning
import SparseFields.Proofs.Reduction.Questions
import SparseFields.Proofs.Reduction.Reordering
import SparseFields.Proofs.Reduction.Runs
import SparseFields.Proofs.Reduction.Shape
import SparseFields.Proofs.Reduction.SubResources
import SparseFields.Proofs.Reduction.Typing
import SparseFields.Proofs.Reduction.Unread
import SparseFields.Proofs.Request.Gate
import SparseFields.Proofs.Request.Items
import SparseFields.Proofs.Request.Query
import SparseFields.Proofs.Request.Reads
import SparseFields.Proofs.Request.Transport
import SparseFields.Proofs.Schema.Layouts
import SparseFields.Proofs.Schema.RoundTrip
import SparseFields.Proofs.Selection.Comparing
import SparseFields.Proofs.Selection.Defects
import SparseFields.Proofs.Selection.Entries
import SparseFields.Proofs.Selection.Extensionality
import SparseFields.Proofs.Selection.Grammar
import SparseFields.Proofs.Selection.Groups
import SparseFields.Proofs.Selection.Legible
import SparseFields.Proofs.Selection.Nesting
import SparseFields.Proofs.Selection.Reading
import SparseFields.Proofs.Selection.Spans
import SparseFields.Proofs.Selection.Writing
import SparseFields.Proofs.SortedMap
import SparseFields.Proofs.Sql.Quoting
import SparseFields.Proofs.Sql.Select
import SparseFields.Proofs.Store.Columns
import SparseFields.Proofs.Store.EqualFilters
import SparseFields.Proofs.Store.Filters
import SparseFields.Proofs.Store.History
import SparseFields.Proofs.Store.Keys
import SparseFields.Proofs.Store.Log
import SparseFields.Proofs.Text.Blank
import SparseFields.Proofs.Text.ByteOrder
import SparseFields.Proofs.Text.CamelCase
import SparseFields.Proofs.Text.Percent
import SparseFields.Reduction.Error
import SparseFields.Reduction.Reducer
import SparseFields.Reduction.Run
import SparseFields.Request.Fields
import SparseFields.Request.Query
import SparseFields.Request.Response
import SparseFields.Request.Route
import SparseFields.Request.Service
import SparseFields.Schema.Descriptor
import SparseFields.Schema.Reader
import SparseFields.Selection.Basic
import SparseFields.Selection.Parser
import SparseFields.Selection.Printer
import SparseFields.Selection.SyntaxError
import SparseFields.Settings.Basic
import SparseFields.Settings.Layer
import SparseFields.Settings.Load
import SparseFields.Settings.Path
import SparseFields.Settings.Reader
import SparseFields.SortedMap
import SparseFields.Sql.Catalog
import SparseFields.Sql.Query
import SparseFields.Store.Demo
import SparseFields.Store.Error
import SparseFields.Store.Filter
import SparseFields.Store.Instance
import SparseFields.Store.Memory
import SparseFields.Store.Source
import SparseFields.Text.Blank
import SparseFields.Text.CamelCase
import SparseFields.Text.Case
import SparseFields.Text.CaseTable
import SparseFields.Text.Cluster
import SparseFields.Text.ClusterTable
import SparseFields.Text.Percent
import SparseFields.Text.Utf8
