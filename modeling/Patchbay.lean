import Patchbay.Browser
import Patchbay.Bytes
import Patchbay.Command.Execute
import Patchbay.Command.Flag
import Patchbay.Command.Run
import Patchbay.Command.Session
import Patchbay.Command.Verb
import Patchbay.Control.Descriptor
import Patchbay.Control.Table
import Patchbay.Decimal.Binary
import Patchbay.Decimal.General
import Patchbay.Decimal.Literal
import Patchbay.Decimal.Shortest
import Patchbay.Decimal.Wide
import Patchbay.Definition.Basic
import Patchbay.Definition.Compile
import Patchbay.Definition.Tables
import Patchbay.Delivery.Basic
import Patchbay.Delivery.Socket
import Patchbay.Description.Basic
import Patchbay.Description.Build
import Patchbay.Description.Check
import Patchbay.Description.Hcl
import Patchbay.Description.Load
import Patchbay.Description.Reference
import Patchbay.Description.Yaml
import Patchbay.Duration
import Patchbay.Fault.Basic
import Patchbay.Fault.Chain
import Patchbay.Files.Path
import Patchbay.Files.Tree
import Patchbay.Graph.Basic
import Patchbay.Graph.Bench
import Patchbay.Graph.Collect
import Patchbay.Graph.Cycle
import Patchbay.Graph.Element
import Patchbay.Graph.Marks
import Patchbay.Graph.Sequence
import Patchbay.Hcl.Decode
import Patchbay.Hcl.Evaluate
import Patchbay.Hcl.Expr
import Patchbay.Hcl.Kind
import Patchbay.Hcl.Letter
import Patchbay.Hcl.Parser
import Patchbay.Hcl.Template
import Patchbay.Hcl.Token
import Patchbay.Hcl.Value
import Patchbay.Identifier
import Patchbay.Journal.Clock
import Patchbay.Journal.Record
import Patchbay.Journal.Trace
import Patchbay.Library.Basic
import Patchbay.Library.Name
import Patchbay.Library.Trace
import Patchbay.Main
import Patchbay.Meter.Basic
import Patchbay.Proofs.Browser
import Patchbay.Proofs.Bytes
import Patchbay.Proofs.Command.Verify
import Patchbay.Proofs.Control.Registration
import Patchbay.Proofs.Control.Table
import Patchbay.Proofs.Decimal.Literal
import Patchbay.Proofs.Definition.Alike
import Patchbay.Proofs.Definition.Arrange
import Patchbay.Proofs.Definition.Check
import Patchbay.Proofs.Definition.Compile
import Patchbay.Proofs.Definition.Redundancy
import Patchbay.Proofs.Definition.Renaming
import Patchbay.Proofs.Definition.Sharing
import Patchbay.Proofs.Delivery.Protocol
import Patchbay.Proofs.Description.Build
import Patchbay.Proofs.Description.Check
import Patchbay.Proofs.Description.Declared
import Patchbay.Proofs.Description.Described
import Patchbay.Proofs.Description.Order
import Patchbay.Proofs.Description.Outcome
import Patchbay.Proofs.Description.Parameters
import Patchbay.Proofs.Description.Reference
import Patchbay.Proofs.Files.Path
import Patchbay.Proofs.Files.Resolve
import Patchbay.Proofs.Files.Tree
import Patchbay.Proofs.Graph.Collection
import Patchbay.Proofs.Graph.Cycle
import Patchbay.Proofs.Graph.Emit
import Patchbay.Proofs.Graph.Reach
import Patchbay.Proofs.Graph.Recursion
import Patchbay.Proofs.Graph.Renaming
import Patchbay.Proofs.Graph.Sequence
import Patchbay.Proofs.Graph.Steps
import Patchbay.Proofs.Graph.Topology
import Patchbay.Proofs.Graph.Walk
import Patchbay.Proofs.Index
import Patchbay.Proofs.Library.Change
import Patchbay.Proofs.Library.Failure
import Patchbay.Proofs.Library.FileName
import Patchbay.Proofs.Library.History
import Patchbay.Proofs.Library.Lookup
import Patchbay.Proofs.Library.Shelf
import Patchbay.Proofs.Library.Stock
import Patchbay.Proofs.Quicksort.Exchange
import Patchbay.Proofs.Quicksort.Heap
import Patchbay.Proofs.Quicksort.Partition
import Patchbay.Proofs.Quicksort.Sort
import Patchbay.Proofs.Snappy
import Patchbay.Proofs.Stream.Account
import Patchbay.Proofs.Stream.Capacity
import Patchbay.Proofs.Stream.Cursor
import Patchbay.Proofs.Stream.Delimited
import Patchbay.Proofs.Stream.File
import Patchbay.Proofs.Stream.Format
import Patchbay.Proofs.Stream.Grammar
import Patchbay.Proofs.Stream.Indexed
import Patchbay.Proofs.Stream.Limits
import Patchbay.Proofs.Stream.Mirror
import Patchbay.Proofs.Stream.Modes
import Patchbay.Proofs.Stream.Normal
import Patchbay.Proofs.Stream.Ownership
import Patchbay.Proofs.Stream.Rebased
import Patchbay.Proofs.Stream.Resolved
import Patchbay.Proofs.Stream.RoundTrip
import Patchbay.Proofs.Stream.Safety
import Patchbay.Proofs.Stream.Written
import Patchbay.Proofs.Text.Blank
import Patchbay.Proofs.Watch.Batches
import Patchbay.Quicksort
import Patchbay.Rate
import Patchbay.Screen.Box
import Patchbay.Settings.Basic
import Patchbay.Settings.Check
import Patchbay.Settings.Load
import Patchbay.Single
import Patchbay.Snappy
import Patchbay.Stream.Raw
import Patchbay.Stream.Read
import Patchbay.Stream.Resolve
import Patchbay.Stream.Write
import Patchbay.Text.Base64
import Patchbay.Text.Blank
import Patchbay.Text.Canonical
import Patchbay.Text.Case
import Patchbay.Text.Cluster
import Patchbay.Text.Printable
import Patchbay.Text.Quote
import Patchbay.Text.Utf8
import Patchbay.Text.Width
import Patchbay.Text.Word
import Patchbay.Watch.Basic
import Patchbay.Watch.Folder
import Patchbay.Yaml.Block
import Patchbay.Yaml.Cursor
import Patchbay.Yaml.Decode
import Patchbay.Yaml.Lexer
import Patchbay.Yaml.Node
import Patchbay.Yaml.Scalar
import Patchbay.Yaml.Source
import Patchbay.Yaml.Tag
import Patchbay.Yaml.Token
import Patchbay.Yaml.Value
