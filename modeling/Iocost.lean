import Iocost.Association
import Iocost.Binary64.Basic
import Iocost.Binary64.Bits
import Iocost.Binary64.Decimal
import Iocost.Binary64.Literal
import Iocost.Binary64.Magnitude
import Iocost.Binary64.Text
import Iocost.Command.Activity
import Iocost.Command.Arguments
import Iocost.Command.Start
import Iocost.Command.Tools
import Iocost.Constants
import Iocost.Counters
import Iocost.Failure
import Iocost.Files.Archive
import Iocost.Files.Change
import Iocost.Files.Name
import Iocost.Files.Node
import Iocost.Files.Path
import Iocost.Files.Tree
import Iocost.Keyed.Basic
import Iocost.Keyed.Counters
import Iocost.Main
import Iocost.Memory.Basic
import Iocost.Memory.Built
import Iocost.Memory.Tree
import Iocost.NameFilter
import Iocost.Pattern.Automaton.Backward
import Iocost.Pattern.Automaton.Basic
import Iocost.Pattern.Automaton.Forward
import Iocost.Pattern.Automaton.Sharing
import Iocost.Pattern.Automaton.Trie
import Iocost.Pattern.Basic
import Iocost.Pattern.Bracket
import Iocost.Pattern.ByteRange
import Iocost.Pattern.CaseVariants
import Iocost.Pattern.CharClass
import Iocost.Pattern.Engine
import Iocost.Pattern.Escape
import Iocost.Pattern.Flags
import Iocost.Pattern.Match
import Iocost.Pattern.Parse
import Iocost.Pattern.Property
import Iocost.Pattern.Shape
import Iocost.Pattern.Size
import Iocost.Proofs.Association
import Iocost.Proofs.Binary64.Bits
import Iocost.Proofs.Binary64.Decimal
import Iocost.Proofs.Binary64.Integers
import Iocost.Proofs.Binary64.Nearest
import Iocost.Proofs.Binary64.Order
import Iocost.Proofs.Binary64.Reading
import Iocost.Proofs.Binary64.Rounding
import Iocost.Proofs.Binary64.Scale
import Iocost.Proofs.Command.Activity
import Iocost.Proofs.Command.Arguments
import Iocost.Proofs.Command.Stages
import Iocost.Proofs.Files.Descent
import Iocost.Proofs.Files.Differing
import Iocost.Proofs.Files.Directories
import Iocost.Proofs.Files.Kinds
import Iocost.Proofs.Files.PathText
import Iocost.Proofs.Files.Reading
import Iocost.Proofs.Files.Writing
import Iocost.Proofs.Keyed.Checks
import Iocost.Proofs.Keyed.Constants
import Iocost.Proofs.Keyed.Counters
import Iocost.Proofs.Keyed.Definitions
import Iocost.Proofs.Keyed.Integers
import Iocost.Proofs.Keyed.Lines
import Iocost.Proofs.Keyed.Lookup
import Iocost.Proofs.Memory.Agreement
import Iocost.Proofs.Memory.Answers
import Iocost.Proofs.Memory.Built
import Iocost.Proofs.Memory.Coverage
import Iocost.Proofs.Memory.Descendants
import Iocost.Proofs.Memory.Layout
import Iocost.Proofs.Memory.MemberChange
import Iocost.Proofs.Memory.Sorted
import Iocost.Proofs.Memory.TreeSteps
import Iocost.Proofs.Memory.Written
import Iocost.Proofs.NameFilter
import Iocost.Proofs.Outcome
import Iocost.Proofs.Pattern.Anchored
import Iocost.Proofs.Pattern.Bracket
import Iocost.Proofs.Pattern.Counts
import Iocost.Proofs.Pattern.Covers
import Iocost.Proofs.Pattern.Engine
import Iocost.Proofs.Pattern.Escape
import Iocost.Proofs.Pattern.Flags
import Iocost.Proofs.Pattern.Group
import Iocost.Proofs.Pattern.Language
import Iocost.Proofs.Pattern.Reader
import Iocost.Proofs.Pattern.Run
import Iocost.Proofs.Pattern.Step
import Iocost.Proofs.Record.Escapes
import Iocost.Proofs.Record.Node
import Iocost.Proofs.Record.Reader
import Iocost.Proofs.Record.RoundTrip
import Iocost.Proofs.Sample.Columns
import Iocost.Proofs.Sample.Numeral
import Iocost.Proofs.Sample.PathTail
import Iocost.Proofs.Sample.Table
import Iocost.Proofs.Sampler
import Iocost.Proofs.Sampler.Isolation
import Iocost.Proofs.Sampler.MemberRows
import Iocost.Proofs.Sampler.Output
import Iocost.Proofs.Sampler.Patterns
import Iocost.Proofs.Sampler.Selection
import Iocost.Proofs.Sampler.Slots
import Iocost.Proofs.Sampler.Table
import Iocost.Proofs.Settings.Layers
import Iocost.Proofs.Sink
import Iocost.Proofs.Snapshot.Constants
import Iocost.Proofs.Snapshot.Devices
import Iocost.Proofs.Snapshot.Differing
import Iocost.Proofs.Snapshot.Layout
import Iocost.Proofs.Snapshot.Online
import Iocost.Proofs.Snapshot.Reading
import Iocost.Proofs.Snapshot.Slots
import Iocost.Proofs.Snapshot.Walk
import Iocost.Proofs.Stats.Derived
import Iocost.Proofs.Stats.History
import Iocost.Proofs.Stats.Usage
import Iocost.Proofs.Text.Encoding
import Iocost.Proofs.Text.Grammar
import Iocost.Proofs.Text.Integer
import Iocost.Proofs.Text.Lines
import Iocost.Proofs.Text.Pieces
import Iocost.Proofs.Walk.Listing
import Iocost.Proofs.Walk.Pruning
import Iocost.Proofs.Walk.Simulation
import Iocost.Sample.Basic
import Iocost.Sample.Number
import Iocost.Sample.Output
import Iocost.Sample.Record
import Iocost.Sample.RecordText
import Iocost.Sample.Table
import Iocost.Sampler
import Iocost.Settings.Basic
import Iocost.Settings.Duration
import Iocost.Settings.File
import Iocost.Settings.Seconds
import Iocost.Settings.Text
import Iocost.Sink
import Iocost.Snapshot.Basic
import Iocost.Snapshot.Layout
import Iocost.Source
import Iocost.Stats
import Iocost.Text.Blank
import Iocost.Text.Column
import Iocost.Text.Control
import Iocost.Text.Integer
import Iocost.Text.Pieces
import Iocost.Text.Printable
import Iocost.Text.Quoted
import Iocost.Text.Ranges
import Iocost.Text.Utf8
import Iocost.Toml.Document
import Iocost.Toml.Scalar
import Iocost.Walk
