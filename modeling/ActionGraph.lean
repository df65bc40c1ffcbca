import ActionGraph.Accept
import ActionGraph.Action.Branch
import ActionGraph.Action.Builtin
import ActionGraph.Action.Collaborators
import ActionGraph.Action.Generate
import ActionGraph.Action.Handler
import ActionGraph.Action.Parallel
import ActionGraph.Action.Params
import ActionGraph.Action.Registry
import ActionGraph.Action.Route
import ActionGraph.Action.Spec
import ActionGraph.Action.Strategy
import ActionGraph.Action.Transition
import ActionGraph.Action.Update
import ActionGraph.Action.Wait
import ActionGraph.Action.World
import ActionGraph.CommandLine.Command
import ActionGraph.CommandLine.Complaint
import ActionGraph.CommandLine.Form
import ActionGraph.CommandLine.Injection
import ActionGraph.CommandLine.Program
import ActionGraph.CommandLine.Reading
import ActionGraph.Completion.Basic
import ActionGraph.Completion.Remote
import ActionGraph.Context.Basic
import ActionGraph.Context.Writes
import ActionGraph.Conversation
import ActionGraph.Dict
import ActionGraph.Embedding.Cache
import ActionGraph.Embedding.Remote
import ActionGraph.Embedding.Vector
import ActionGraph.Event.Basic
import ActionGraph.Event.Bus
import ActionGraph.Execution.Basic
import ActionGraph.Execution.Call
import ActionGraph.Execution.Crew
import ActionGraph.Execution.Engine
import ActionGraph.Execution.Mailbox
import ActionGraph.Execution.Metrics
import ActionGraph.Execution.Run
import ActionGraph.Execution.State
import ActionGraph.Failure
import ActionGraph.Files
import ActionGraph.Graph.Definition
import ActionGraph.Graph.Load
import ActionGraph.Graph.Topology
import ActionGraph.Http.Basic
import ActionGraph.Json.Basic
import ActionGraph.Json.Path
import ActionGraph.Json.Print
import ActionGraph.Main
import ActionGraph.Number
import ActionGraph.Number.Binary32
import ActionGraph.Number.Binary64
import ActionGraph.Number.Decimal
import ActionGraph.Process.Basic
import ActionGraph.Process.Pool
import ActionGraph.Process.Timeout
import ActionGraph.Proofs.Action.Atomicity
import ActionGraph.Proofs.Action.Composition
import ActionGraph.Proofs.Action.Concurrency
import ActionGraph.Proofs.Action.Dispatch
import ActionGraph.Proofs.Action.Envelope
import ActionGraph.Proofs.Action.Frame
import ActionGraph.Proofs.Action.Gathering
import ActionGraph.Proofs.Action.Interleaving
import ActionGraph.Proofs.Action.Keeping
import ActionGraph.Proofs.Action.Merging
import ActionGraph.Proofs.Action.Nesting
import ActionGraph.Proofs.Action.Orderly
import ActionGraph.Proofs.Action.Sequence
import ActionGraph.Proofs.Action.Services
import ActionGraph.Proofs.Action.Strategies
import ActionGraph.Proofs.Action.Transparency
import ActionGraph.Proofs.Action.Watching
import ActionGraph.Proofs.Bags
import ActionGraph.Proofs.Dictionaries
import ActionGraph.Proofs.Embedding.Retention
import ActionGraph.Proofs.Encodings
import ActionGraph.Proofs.Event.Listening
import ActionGraph.Proofs.Execution.Abandoned
import ActionGraph.Proofs.Execution.Advance
import ActionGraph.Proofs.Execution.Brackets
import ActionGraph.Proofs.Execution.Calls
import ActionGraph.Proofs.Execution.Conservation
import ActionGraph.Proofs.Execution.Contexts
import ActionGraph.Proofs.Execution.Course
import ActionGraph.Proofs.Execution.Crews
import ActionGraph.Proofs.Execution.Dataflow
import ActionGraph.Proofs.Execution.Effects
import ActionGraph.Proofs.Execution.Expiry
import ActionGraph.Proofs.Execution.FinalShape
import ActionGraph.Proofs.Execution.Flow
import ActionGraph.Proofs.Execution.Frames
import ActionGraph.Proofs.Execution.Isolation
import ActionGraph.Proofs.Execution.Leftovers
import ActionGraph.Proofs.Execution.Mailboxes
import ActionGraph.Proofs.Execution.Namesakes
import ActionGraph.Proofs.Execution.Operations
import ActionGraph.Proofs.Execution.Orders
import ActionGraph.Proofs.Execution.Orphans
import ActionGraph.Proofs.Execution.Pauses
import ActionGraph.Proofs.Execution.Ports
import ActionGraph.Proofs.Execution.Precedence
import ActionGraph.Proofs.Execution.Sections
import ActionGraph.Proofs.Execution.Separation
import ActionGraph.Proofs.Execution.Serving
import ActionGraph.Proofs.Execution.Slots
import ActionGraph.Proofs.Execution.Standing
import ActionGraph.Proofs.Execution.Tallies
import ActionGraph.Proofs.Execution.Tidings
import ActionGraph.Proofs.Execution.Twins
import ActionGraph.Proofs.Execution.Undisturbed
import ActionGraph.Proofs.Execution.Verdicts
import ActionGraph.Proofs.Graph.Compilation
import ActionGraph.Proofs.Graph.Cycles
import ActionGraph.Proofs.Graph.Levels
import ActionGraph.Proofs.Graph.Ties
import ActionGraph.Proofs.Graph.Turns
import ActionGraph.Proofs.Json.Equality
import ActionGraph.Proofs.Json.Merging
import ActionGraph.Proofs.Json.Paths
import ActionGraph.Proofs.Number.Rounding
import ActionGraph.Proofs.Occurrences
import ActionGraph.Proofs.Routing.Batches
import ActionGraph.Proofs.Routing.Best
import ActionGraph.Proofs.Rule.Equality
import ActionGraph.Proofs.Rule.Integers
import ActionGraph.Proofs.Rule.Leaves
import ActionGraph.Proofs.Rule.Negation
import ActionGraph.Proofs.Rule.RoundTrip
import ActionGraph.Proofs.Rule.Texts
import ActionGraph.Proofs.Settings.Honoured
import ActionGraph.Proofs.Template.Plain
import ActionGraph.Proofs.Text.Lowering
import ActionGraph.Proofs.Toml.Integers
import ActionGraph.Proofs.Wire.Records
import ActionGraph.Proofs.Wire.Values
import ActionGraph.Proofs.Wire.Written
import ActionGraph.Proofs.Writes
import ActionGraph.Regex.Basic
import ActionGraph.Regex.CharSet
import ActionGraph.Regex.Parse
import ActionGraph.Rehearsal.Actions
import ActionGraph.Rehearsal.Directory
import ActionGraph.Rehearsal.Network
import ActionGraph.Rehearsal.Stage
import ActionGraph.Routing.Choice
import ActionGraph.Routing.Lookup
import ActionGraph.Rule.Basic
import ActionGraph.Rule.Evaluate
import ActionGraph.Rule.Wire
import ActionGraph.Settings
import ActionGraph.Settings.Load
import ActionGraph.Settings.Print
import ActionGraph.Template.Arithmetic
import ActionGraph.Template.Expression
import ActionGraph.Template.Fault
import ActionGraph.Template.Filter
import ActionGraph.Template.Parse
import ActionGraph.Template.Render
import ActionGraph.Template.Token
import ActionGraph.Template.Value
import ActionGraph.Text.Case
import ActionGraph.Text.CaseTable
import ActionGraph.Text.Category
import ActionGraph.Text.Debug
import ActionGraph.Text.Property
import ActionGraph.Text.Split
import ActionGraph.Time
import ActionGraph.Toml.Basic
import ActionGraph.Toml.Decode
import ActionGraph.Toml.Parse
import ActionGraph.Toml.Print
import ActionGraph.Toml.Scalar
import ActionGraph.Wire.Decode
import ActionGraph.Wire.Fault
import ActionGraph.Wire.Fields
import ActionGraph.Wire.Message
import ActionGraph.Wire.Node
import ActionGraph.Wire.Reader
import ActionGraph.Proofs.Settings.References
import ActionGraph.Proofs.CommandLine.Injections
import ActionGraph.Proofs.Embedding.Alignment
import ActionGraph.Proofs.Execution.Unloading
import ActionGraph.Proofs.Graph.Safety
import ActionGraph.Proofs.Execution.Forwarding
