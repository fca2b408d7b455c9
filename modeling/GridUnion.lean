import GridUnion.Axis.Times
import GridUnion.Gallery
import GridUnion.Main
import GridUnion.Proofs.Axis.Integers
import GridUnion.Proofs.Fetch
import GridUnion.Proofs.Dataset.Join
import GridUnion.Proofs.Block.Fill
import GridUnion.Proofs.Fetch.Positions
import GridUnion.Proofs.Registry.Table
import GridUnion.Proofs.Registry.Task
import GridUnion.Proofs.Registry.Build
import GridUnion.Proofs.Registry.Consistent
import GridUnion.Proofs.Registry.Atomic
import GridUnion.Proofs.Registry.Closings
import GridUnion.Proofs.Registry.Readers
import GridUnion.Proofs.Registry.Refused
import GridUnion.Proofs.Axis.Ascent
import GridUnion.Proofs.Dataset.Compatible
import GridUnion.Proofs.Dataset.Order
import GridUnion.Proofs.Dataset.Extract
import GridUnion.Proofs.Registry.Skipped
import GridUnion.Proofs.Registry.Several
import GridUnion.Proofs.CommandLine.Extract
import GridUnion.Proofs.Dataset.Times
import GridUnion.Proofs.Segment.Description
import GridUnion.Proofs.Segment.Fewest
import GridUnion.Proofs.Segment.Forward
import GridUnion.Proofs.Fetch.Exact
import GridUnion.Proofs.Axis.Union
import GridUnion.Proofs.Segment.Scan
import GridUnion.Proofs.Fetch.Faults
import GridUnion.Proofs.Axis.Idempotent
import GridUnion.Proofs.Axis.Overrun
import GridUnion.Proofs.Axis.Mixed
import GridUnion.Proofs.Dataset.Instants
import GridUnion.Proofs.Dataset.Coverage
import GridUnion.Proofs.Dataset.Missing
import GridUnion.Proofs.Dataset.Completed
import GridUnion.Proofs.CommandLine.Constraint
import GridUnion.Proofs.Dataset.Map
import GridUnion.Proofs.CommandLine.ExitCode
