import MemoryShell.Address.Internet
import MemoryShell.Address.Url
import MemoryShell.Command.Arguments
import MemoryShell.Command.Basic
import MemoryShell.Command.Builtin
import MemoryShell.Command.Cat
import MemoryShell.Command.Copy
import MemoryShell.Command.Flags
import MemoryShell.Command.Invoke
import MemoryShell.Command.Making
import MemoryShell.Command.Operands
import MemoryShell.Command.Remove
import MemoryShell.CommandLine.Redirection
import MemoryShell.CommandLine.Token
import MemoryShell.Config
import MemoryShell.Demand
import MemoryShell.Failure
import MemoryShell.Fault
import MemoryShell.Hook
import MemoryShell.Invocation.Argument
import MemoryShell.Invocation.Basic
import MemoryShell.Invocation.Method
import MemoryShell.Invocation.Signature
import MemoryShell.Isolate.Params
import MemoryShell.Isolate.Process
import MemoryShell.Isolate.Request
import MemoryShell.Isolate.Script
import MemoryShell.Isolate.Setup
import MemoryShell.Json.Display
import MemoryShell.Json.Key
import MemoryShell.Json.Mapping
import MemoryShell.Json.Octets
import MemoryShell.Json.Parser
import MemoryShell.Json.Printer
import MemoryShell.Json.Value
import MemoryShell.Listener
import MemoryShell.Message
import MemoryShell.Message.Template
import MemoryShell.Number.Binary64
import MemoryShell.Number.Shortest
import MemoryShell.OrderedMap
import MemoryShell.Path.Basic
import MemoryShell.Proofs.AllOrNothing
import MemoryShell.Proofs.Command.Builtins
import MemoryShell.Proofs.Command.Copying
import MemoryShell.Proofs.Command.Decomposition
import MemoryShell.Proofs.Command.Flags
import MemoryShell.Proofs.Command.Footprint
import MemoryShell.Proofs.Command.Levels
import MemoryShell.Proofs.Command.Removal
import MemoryShell.Proofs.CommandLine.Cover
import MemoryShell.Proofs.CommandLine.Exposure
import MemoryShell.Proofs.CommandLine.Grammar
import MemoryShell.Proofs.CommandLine.Padding
import MemoryShell.Proofs.CommandLine.Quoting
import MemoryShell.Proofs.CommandLine.Redirection
import MemoryShell.Proofs.Coupling
import MemoryShell.Proofs.Hook.InPlace
import MemoryShell.Proofs.Hook.Run
import MemoryShell.Proofs.Isolate.Conduct
import MemoryShell.Proofs.Isolate.Ending
import MemoryShell.Proofs.Isolate.Exchange
import MemoryShell.Proofs.Isolate.Service
import MemoryShell.Proofs.Json.Literal
import MemoryShell.Proofs.Json.RoundTrip
import MemoryShell.Proofs.Outcome
import MemoryShell.Proofs.Path.Below
import MemoryShell.Proofs.Path.Canonical
import MemoryShell.Proofs.Path.Joining
import MemoryShell.Proofs.Path.Spelling
import MemoryShell.Proofs.Registry
import MemoryShell.Proofs.Session.Keeping
import MemoryShell.Proofs.Session.Store
import MemoryShell.Proofs.Shell.Accord
import MemoryShell.Proofs.Shell.Answer
import MemoryShell.Proofs.Shell.Clearance
import MemoryShell.Proofs.Shell.Course
import MemoryShell.Proofs.Shell.Dispatch
import MemoryShell.Proofs.Shell.Diversion
import MemoryShell.Proofs.Shell.Emission
import MemoryShell.Proofs.Shell.History
import MemoryShell.Proofs.Shell.Isolation
import MemoryShell.Proofs.Shell.Line
import MemoryShell.Proofs.Shell.Moving
import MemoryShell.Proofs.Shell.Padding
import MemoryShell.Proofs.Shell.Preserving
import MemoryShell.Proofs.Shell.Redirect
import MemoryShell.Proofs.Shell.Refusal
import MemoryShell.Proofs.Shell.Released
import MemoryShell.Proofs.Shell.Requests
import MemoryShell.Proofs.Shell.Restoring
import MemoryShell.Proofs.Shell.Resumable
import MemoryShell.Proofs.Shell.Resumption
import MemoryShell.Proofs.Shell.Shelter
import MemoryShell.Proofs.Shell.Stages
import MemoryShell.Proofs.Shell.Surroundings
import MemoryShell.Proofs.Shell.Sustained
import MemoryShell.Proofs.Shell.Upheld
import MemoryShell.Proofs.Shell.Utterance
import MemoryShell.Proofs.Shell.Veil
import MemoryShell.Proofs.Shell.Voice
import MemoryShell.Proofs.Shell.Whereabouts
import MemoryShell.Proofs.Source.Restriction
import MemoryShell.Proofs.Source.Walk
import MemoryShell.Proofs.Text.Composition
import MemoryShell.Proofs.Text.NormalForm
import MemoryShell.Proofs.Text.Pattern
import MemoryShell.Proofs.Text.Reading
import MemoryShell.Proofs.Text.Strip
import MemoryShell.Proofs.Text.Utf8
import MemoryShell.Proofs.Tree.Bare
import MemoryShell.Proofs.Tree.Entries
import MemoryShell.Proofs.Tree.Everywhere
import MemoryShell.Proofs.Tree.Flip
import MemoryShell.Proofs.Tree.Leaves
import MemoryShell.Proofs.Tree.Nodes
import MemoryShell.Proofs.Tree.Pruning
import MemoryShell.Proofs.Tree.Veil
import MemoryShell.Proofs.Tree.Walk
import MemoryShell.Proofs.Volume.Alongside
import MemoryShell.Proofs.Volume.Approach
import MemoryShell.Proofs.Volume.Atomic
import MemoryShell.Proofs.Volume.Change
import MemoryShell.Proofs.Volume.Clash
import MemoryShell.Proofs.Volume.Contract
import MemoryShell.Proofs.Volume.Extension
import MemoryShell.Proofs.Volume.Finding
import MemoryShell.Proofs.Volume.FlatView
import MemoryShell.Proofs.Volume.Guarding
import MemoryShell.Proofs.Volume.History
import MemoryShell.Proofs.Volume.Intact
import MemoryShell.Proofs.Volume.Invocation
import MemoryShell.Proofs.Volume.Loading
import MemoryShell.Proofs.Volume.Pristine
import MemoryShell.Proofs.Volume.Orderly
import MemoryShell.Proofs.Volume.Overlay
import MemoryShell.Proofs.Volume.PathMap
import MemoryShell.Proofs.Volume.Refinement
import MemoryShell.Proofs.Volume.Reordering
import MemoryShell.Proofs.Volume.Respelling
import MemoryShell.Proofs.Volume.RoundTrip
import MemoryShell.Proofs.Volume.Run
import MemoryShell.Proofs.Volume.Stamping
import MemoryShell.Proofs.Volume.Success
import MemoryShell.Proofs.Volume.Twins
import MemoryShell.Proofs.Volume.Use
import MemoryShell.Proofs.Volume.Veil
import MemoryShell.Proofs.Volume.Writing
import MemoryShell.Registry
import MemoryShell.Session.Endpoint
import MemoryShell.Session.Store
import MemoryShell.Shell.Basic
import MemoryShell.Shell.Emission
import MemoryShell.Shell.Execute
import MemoryShell.Shell.Hooks
import MemoryShell.Shell.Isolation
import MemoryShell.Shell.Redirect
import MemoryShell.Source.Draft
import MemoryShell.Source.Function
import MemoryShell.Source.Grammar.Call
import MemoryShell.Source.Grammar.Compound
import MemoryShell.Source.Grammar.Expression
import MemoryShell.Source.Grammar.Parameter
import MemoryShell.Source.Grammar.Pattern
import MemoryShell.Source.Grammar.Rule
import MemoryShell.Source.Grammar.Simple
import MemoryShell.Source.Grammar.Target
import MemoryShell.Source.Lexer
import MemoryShell.Source.Malformation
import MemoryShell.Source.Number
import MemoryShell.Source.Parse
import MemoryShell.Source.Quoted
import MemoryShell.Source.Reading
import MemoryShell.Source.Recognizer
import MemoryShell.Source.Token
import MemoryShell.Source.Tree
import MemoryShell.Text.CodePoint
import MemoryShell.Text.CombiningClass
import MemoryShell.Text.Composite
import MemoryShell.Text.Decimal
import MemoryShell.Text.Decomposition
import MemoryShell.Text.Encoding
import MemoryShell.Text.Identifier
import MemoryShell.Text.Letters
import MemoryShell.Text.Literal
import MemoryShell.Text.Lowercase
import MemoryShell.Text.NormalForm
import MemoryShell.Text.Printable
import MemoryShell.Text.Utf8
import MemoryShell.Volume.Basic
import MemoryShell.Volume.Error
import MemoryShell.Volume.Node
import MemoryShell.Volume.Operation
import MemoryShell.Volume.Snapshot
