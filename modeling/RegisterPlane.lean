import RegisterPlane.Assignment.Element
import RegisterPlane.Assignment.Key
import RegisterPlane.Assignment.Literal
import RegisterPlane.Assignment.Text
import RegisterPlane.CommandLine.Arguments
import RegisterPlane.CommandLine.Basic
import RegisterPlane.CommandLine.Command
import RegisterPlane.CommandLine.Failure
import RegisterPlane.CommandLine.Groups
import RegisterPlane.CommandLine.Registers
import RegisterPlane.CommandLine.Serving
import RegisterPlane.CommandLine.Table
import RegisterPlane.Files.Basic
import RegisterPlane.Files.Path
import RegisterPlane.Floating.Basic
import RegisterPlane.Floating.Numeral
import RegisterPlane.Floating.Rounding
import RegisterPlane.Floating.Shortest
import RegisterPlane.Group.Basic
import RegisterPlane.Group.Controller
import RegisterPlane.Group.Document
import RegisterPlane.Group.Error
import RegisterPlane.Group.Rehearsal
import RegisterPlane.Group.State
import RegisterPlane.Json.Basic
import RegisterPlane.Json.Number
import RegisterPlane.Json.Reader
import RegisterPlane.Json.Record
import RegisterPlane.Json.Token
import RegisterPlane.Json.Writer
import RegisterPlane.Kind
import RegisterPlane.Log.Line
import RegisterPlane.Log.Pump
import RegisterPlane.Main
import RegisterPlane.Node.Basic
import RegisterPlane.Node.Client
import RegisterPlane.Node.Error
import RegisterPlane.Node.Exchange
import RegisterPlane.Node.Path
import RegisterPlane.Node.Server
import RegisterPlane.Program.Arithmetic
import RegisterPlane.Program.Lexeme
import RegisterPlane.Program.Printing
import RegisterPlane.Program.Reader
import RegisterPlane.Program.Script
import RegisterPlane.Program.Shell
import RegisterPlane.Program.Start
import RegisterPlane.Program.Step
import RegisterPlane.Register.Basic
import RegisterPlane.Register.Error
import RegisterPlane.Register.Name
import RegisterPlane.Store.Access
import RegisterPlane.Store.Backing
import RegisterPlane.Store.Basic
import RegisterPlane.Store.File
import RegisterPlane.Store.Policy
import RegisterPlane.Store.Seed
import RegisterPlane.Store.Service
import RegisterPlane.Store.Source
import RegisterPlane.Text.Blank
import RegisterPlane.Text.Digits
import RegisterPlane.Text.Hex
import RegisterPlane.Text.Lines
import RegisterPlane.Text.Printable
import RegisterPlane.Text.Quoted
import RegisterPlane.Text.Utf8
import RegisterPlane.Text.Width
import RegisterPlane.Timestamp
import RegisterPlane.Value.Basic
import RegisterPlane.Value.Display
import RegisterPlane.Value.Order
import RegisterPlane.Wire.Message
import RegisterPlane.Wire.Register
import RegisterPlane.Wire.Value
import RegisterPlane.Yaml.Basic
import RegisterPlane.Yaml.Cursor
import RegisterPlane.Yaml.Node
import RegisterPlane.Yaml.Outline
import RegisterPlane.Yaml.Resolve
import RegisterPlane.Yaml.Scalar
import RegisterPlane.Yaml.Scanner
import RegisterPlane.Yaml.Token
import RegisterPlane.Proofs.Store.Entries
import RegisterPlane.Proofs.Store.Layers
import RegisterPlane.Proofs.Store.Change
import RegisterPlane.Proofs.Store.Follows
import RegisterPlane.Proofs.Store.Durability
import RegisterPlane.Proofs.Text.Character
import RegisterPlane.Proofs.Text.Digits
import RegisterPlane.Proofs.Floating.Grid
import RegisterPlane.Proofs.Floating.Widening
import RegisterPlane.Proofs.Floating.Conversion
import RegisterPlane.Proofs.Floating.Decimal
import RegisterPlane.Proofs.Assignment.Element
import RegisterPlane.Proofs.Assignment.Environment
import RegisterPlane.Proofs.Assignment.Literal
import RegisterPlane.Proofs.Group.Specification
import RegisterPlane.Proofs.Group.Resolution
import RegisterPlane.Proofs.Group.Inheritance
import RegisterPlane.Proofs.Node.Launch
import RegisterPlane.Proofs.Node.Backing
import RegisterPlane.Proofs.Store.Refusal
import RegisterPlane.Proofs.CommandLine.Setting
import RegisterPlane.Proofs.Json.Line
import RegisterPlane.Proofs.Json.Record
import RegisterPlane.Proofs.Json.RoundTrip
import RegisterPlane.Proofs.Node.Framing
import RegisterPlane.Proofs.Store.Operation
import RegisterPlane.Proofs.Store.Write
import RegisterPlane.Proofs.Store.Shape
import RegisterPlane.Proofs.Group.Course
import RegisterPlane.Proofs.Group.Verdict
import RegisterPlane.Proofs.Group.Route
import RegisterPlane.Proofs.Group.Progress
import RegisterPlane.Proofs.Group.Lifecycle
import RegisterPlane.Proofs.Group.Chronicle
import RegisterPlane.Proofs.Group.Stopping
import RegisterPlane.Proofs.Node.Remote
import RegisterPlane.Proofs.Store.Computed
import RegisterPlane.Proofs.Store.Steps
import RegisterPlane.Proofs.Store.Linear
import RegisterPlane.Proofs.Store.Seeding
import RegisterPlane.Proofs.Floating.Exact
import RegisterPlane.Proofs.Value.Lossless
import RegisterPlane.Proofs.Json.Page
import RegisterPlane.Proofs.Node.Conversation
import RegisterPlane.Log.Sink
import RegisterPlane.Proofs.Log.Rendering
import RegisterPlane.Proofs.Log.Sink
import RegisterPlane.Files.Interruption
import RegisterPlane.Proofs.Files.Path
import RegisterPlane.Proofs.Files.Tree
import RegisterPlane.Proofs.Files.Interruption
import RegisterPlane.Proofs.Store.RegisterFile
import RegisterPlane.Proofs.Store.Interruption
import RegisterPlane.Proofs.Value.Wrapping
import RegisterPlane.Proofs.Store.Decision
import RegisterPlane.Proofs.Store.Watched
import RegisterPlane.Proofs.Assignment.Grammar
import RegisterPlane.Proofs.Assignment.Scan
import RegisterPlane.Proofs.Assignment.Inference
import RegisterPlane.Proofs.Assignment.Named
import RegisterPlane.Proofs.Assignment.Exactness
import RegisterPlane.Proofs.Text.Tokens
import RegisterPlane.Proofs.Text.Division
import RegisterPlane.Proofs.Text.Utf8
import RegisterPlane.Proofs.Log.Pump
import RegisterPlane.Proofs.Register.Form
import RegisterPlane.Proofs.Assignment.Words
