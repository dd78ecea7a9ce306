import Keyspan.Affinity
import Keyspan.Assignment
import Keyspan.ByteSize
import Keyspan.Catalog
import Keyspan.Cluster
import Keyspan.Duration.Basic
import Keyspan.Duration.Notation
import Keyspan.Duration.Unit
import Keyspan.Estimate.Cost
import Keyspan.Estimate.Sampling
import Keyspan.Estimate.Sizes
import Keyspan.Estimate.Statistics
import Keyspan.Failure
import Keyspan.Index
import Keyspan.KeyRange
import Keyspan.Layout.Balance
import Keyspan.Layout.Basic
import Keyspan.Layout.Fill
import Keyspan.Layout.Local
import Keyspan.Layout.Queue
import Keyspan.Lexicographic
import Keyspan.Memory.Atom
import Keyspan.Memory.Calendar
import Keyspan.Memory.Cell
import Keyspan.Memory.ColumnType
import Keyspan.Memory.Dictionary
import Keyspan.Memory.FieldPath
import Keyspan.Memory.Scaled
import Keyspan.Memory.Shown
import Keyspan.Memory.Stored
import Keyspan.Memory.Table
import Keyspan.Number.Double
import Keyspan.Number.Literal
import Keyspan.Number.Shortest
import Keyspan.OrderedMap
import Keyspan.Partition
import Keyspan.Plan.Builder
import Keyspan.Plan.Node
import Keyspan.Proofs.Assignment.Affinity
import Keyspan.Proofs.Assignment.Course
import Keyspan.Proofs.Assignment.Locality
import Keyspan.Proofs.Assignment.Moves
import Keyspan.Proofs.Assignment.Order
import Keyspan.Proofs.Catalog.History
import Keyspan.Proofs.Clipping
import Keyspan.Proofs.Duration.Grammar
import Keyspan.Proofs.Duration.Recovery
import Keyspan.Proofs.Estimate.Fallback
import Keyspan.Proofs.Estimate.Sampling
import Keyspan.Proofs.Estimate.SizeMaps
import Keyspan.Proofs.KeyOrder
import Keyspan.Proofs.Layout.Balancing
import Keyspan.Proofs.Layout.Capacity
import Keyspan.Proofs.Layout.Contents
import Keyspan.Proofs.Layout.Ending
import Keyspan.Proofs.Layout.Fewest
import Keyspan.Proofs.Layout.Filling
import Keyspan.Proofs.Layout.Growing
import Keyspan.Proofs.Layout.Homing
import Keyspan.Proofs.Layout.Locality
import Keyspan.Proofs.Layout.Roles
import Keyspan.Proofs.Layout.Rounds
import Keyspan.Proofs.Layout.Selection
import Keyspan.Proofs.Layout.Settling
import Keyspan.Proofs.Layout.Tracking
import Keyspan.Proofs.Memory.Lawful
import Keyspan.Proofs.Number.Literal
import Keyspan.Proofs.Number.Rounding
import Keyspan.Proofs.Plan.Calls
import Keyspan.Proofs.Plan.Copies
import Keyspan.Proofs.Plan.Coverage
import Keyspan.Proofs.Plan.Digest
import Keyspan.Proofs.Plan.Pruning
import Keyspan.Proofs.Plan.RowCounts
import Keyspan.Proofs.Sample.Batches
import Keyspan.Proofs.Sample.Laws
import Keyspan.Proofs.Sample.Order
import Keyspan.Proofs.Sample.Rows
import Keyspan.Proofs.Setting.Conversion
import Keyspan.Proofs.Setting.Reading
import Keyspan.Proofs.Setting.Recall
import Keyspan.Proofs.Text.Normal
import Keyspan.Proofs.Text.Quoted
import Keyspan.Sample.Cursor
import Keyspan.Sample.Library
import Keyspan.Scan
import Keyspan.Schema
import Keyspan.Setting.Convert
import Keyspan.Setting.Declaration
import Keyspan.Setting.Kind
import Keyspan.Setting.Scan
import Keyspan.Setting.Settings
import Keyspan.Setting.Store
import Keyspan.Setting.Value
import Keyspan.Text.Blank
import Keyspan.Text.Digit
import Keyspan.Text.Lower
import Keyspan.Text.Printable
import Keyspan.Text.Quoted
import Keyspan.Text.Ranges
import Keyspan.Trace
