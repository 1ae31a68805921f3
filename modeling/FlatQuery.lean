import FlatQuery.Command.Run
import FlatQuery.Command.Usage
import FlatQuery.Main
import FlatQuery.Proofs.Text.Standing
import FlatQuery.Proofs.OrderMap
import FlatQuery.Proofs.Query.Clauses
import FlatQuery.Proofs.Query.Completeness
import FlatQuery.Proofs.Query.Rendering
import FlatQuery.Proofs.Stage.Join
import FlatQuery.Proofs.Stage.Group
import FlatQuery.Proofs.Stage.Key
import FlatQuery.Proofs.Decimal.Order
import FlatQuery.Proofs.Stage.Aggregate
import FlatQuery.Proofs.Stage.Mirror
import FlatQuery.Proofs.Stage.Tally
import FlatQuery.Proofs.Stage.Columns
import FlatQuery.Proofs.Stage.Outer
import FlatQuery.Proofs.Stage.Qualified
import FlatQuery.Proofs.Stage.Selection
import FlatQuery.Proofs.Stage.Counts
import FlatQuery.Proofs.Engine.Outcome
import FlatQuery.Proofs.Engine.Live
import FlatQuery.Proofs.Engine.Trace
import FlatQuery.Proofs.Stage.Uniform
import FlatQuery.Proofs.KeyOrder
import FlatQuery.Proofs.Json.Strings
import FlatQuery.Proofs.Trace.Line
import FlatQuery.Proofs.Command.Response
import FlatQuery.Proofs.Table.Confinement
import FlatQuery.Proofs.Table.Written
import FlatQuery.Proofs.Query.Markers
import FlatQuery.Proofs.Query.Conditions
import FlatQuery.Query.Located
import FlatQuery.Proofs.Text.Slice
import FlatQuery.Proofs.Text.Runs
import FlatQuery.Proofs.Query.Located.Reader
import FlatQuery.Proofs.Query.Located.Clauses
import FlatQuery.Proofs.Stage.Projection
import FlatQuery.Proofs.Stage.Call
import FlatQuery.Proofs.Command.Settings
import FlatQuery.Proofs.Stage.Number
