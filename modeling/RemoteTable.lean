import RemoteTable.Calendar.Date
import RemoteTable.Calendar.Time
import RemoteTable.Calendar.Timestamp
import RemoteTable.Change.Cascade
import RemoteTable.Change.Depth
import RemoteTable.Change.Entry
import RemoteTable.Change.Graph
import RemoteTable.Change.Plan
import RemoteTable.Change.State
import RemoteTable.Client
import RemoteTable.Dict
import RemoteTable.Fault
import RemoteTable.Http
import RemoteTable.Json.Basic
import RemoteTable.Json.Printer
import RemoteTable.Json.Reader
import RemoteTable.Load.Cursor
import RemoteTable.Load.Rows
import RemoteTable.Metrics.Counters
import RemoteTable.Metrics.Event
import RemoteTable.Metrics.Scope
import RemoteTable.Model.Entity
import RemoteTable.Model.Kind
import RemoteTable.Model.Schema
import RemoteTable.Notice
import RemoteTable.Number.Binary
import RemoteTable.Number.Decimal
import RemoteTable.Number.FloatReader
import RemoteTable.Number.FloatText
import RemoteTable.Number.Shortest
import RemoteTable.Query.Expr
import RemoteTable.Query.Model
import RemoteTable.Query.Obstacle
import RemoteTable.Query.Pipeline
import RemoteTable.Query.Predicate
import RemoteTable.Query.Projection
import RemoteTable.Query.QueryString
import RemoteTable.Row.Basic
import RemoteTable.Save.Dispatch
import RemoteTable.Save.Repoint
import RemoteTable.Save.Write
import RemoteTable.Settings.Basic
import RemoteTable.Settings.Document
import RemoteTable.Text.Base64
import RemoteTable.Text.Blank
import RemoteTable.Text.CaseTable
import RemoteTable.Text.CharSet
import RemoteTable.Text.Composition
import RemoteTable.Text.CompositionTable
import RemoteTable.Text.Digits
import RemoteTable.Text.Hex
import RemoteTable.Text.Literal
import RemoteTable.Text.Lowercase
import RemoteTable.Text.PrintTable
import RemoteTable.Text.Split
import RemoteTable.Url.Basic
import RemoteTable.Url.DomainName
import RemoteTable.Url.FoldTable
import RemoteTable.Url.Host
import RemoteTable.Url.LabelTable
import RemoteTable.Url.Percent
import RemoteTable.Url.Punycode
import RemoteTable.Url.Reader
import RemoteTable.Uuid
import RemoteTable.Value.Basic
import RemoteTable.Value.Describe
import RemoteTable.Value.Printer
import RemoteTable.Value.Reader
import RemoteTable.Proofs.Distinct
import RemoteTable.Proofs.Graph.Components
import RemoteTable.Proofs.Graph.Decomposition
import RemoteTable.Proofs.Json.Members
import RemoteTable.Proofs.Json.Reading
import RemoteTable.Proofs.Change.Depth
import RemoteTable.Proofs.Change.Order
import RemoteTable.Proofs.Change.Cascade
import RemoteTable.Proofs.Change.Paths
import RemoteTable.Proofs.Query.Meaning
import RemoteTable.Proofs.Query.Analysis
import RemoteTable.Proofs.Query.Translation
import RemoteTable.Proofs.Query.Deferral
import RemoteTable.Proofs.Query.Flattening
import RemoteTable.Proofs.Query.Conversions
import RemoteTable.Proofs.Query.NullOperands
import RemoteTable.Proofs.Query.TextPatterns
import RemoteTable.Proofs.Query.Evaluation
import RemoteTable.Proofs.Query.Folding
import RemoteTable.Proofs.Query.Acceptance
import RemoteTable.Proofs.Query.Sources
import RemoteTable.Proofs.Query.Page
import RemoteTable.Proofs.Query.Division
import RemoteTable.Proofs.Query.ReadBack
import RemoteTable.Proofs.Query.ReservedKeys
import RemoteTable.Proofs.Query.Shaping
import RemoteTable.Proofs.Query.PushDown
import RemoteTable.Proofs.Save.Repointing
import RemoteTable.Proofs.Save.Run
import RemoteTable.Proofs.Save.Rejection
import RemoteTable.Proofs.Save.Following
import RemoteTable.Proofs.Save.Dependents
import RemoteTable.Proofs.Save.Chains
import RemoteTable.Proofs.Save.Exchanges
import RemoteTable.Proofs.Save.Sequence
import RemoteTable.Proofs.Save.Frame
import RemoteTable.Proofs.Save.WriteBack
import RemoteTable.Proofs.Load.Pass
import RemoteTable.Proofs.Load.Results
import RemoteTable.Proofs.Load.Delivery
import RemoteTable.Proofs.Metrics.Bracket
import RemoteTable.Proofs.Metrics.Accounting
import RemoteTable.Proofs.Metrics.Rejected
import RemoteTable.Proofs.Client.LocalFaults
import RemoteTable.Proofs.Query.Parameters
import RemoteTable.Proofs.Client.Classification
import RemoteTable.Proofs.Calendar.Reading
import RemoteTable.Proofs.Calendar.UniversalTime
import RemoteTable.Proofs.Number.Decimal
import RemoteTable.Proofs.Number.Rounding
import RemoteTable.Proofs.Number.Shortest
import RemoteTable.Proofs.Number.FloatText
import RemoteTable.Proofs.Number.NearestDouble
import RemoteTable.Proofs.Value.Encodings
import RemoteTable.Proofs.Value.RoundTrip
import RemoteTable.Proofs.Row.Body
import RemoteTable.Proofs.Row.Documents
import RemoteTable.Proofs.Value.DecimalNumbers
import RemoteTable.Proofs.Metrics.Sums
import RemoteTable.Proofs.Metrics.Scopes
import RemoteTable.Proofs.Change.StandIns
import RemoteTable.Proofs.Url.Unescaping
import RemoteTable.Proofs.Url.TableAddress
