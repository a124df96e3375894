import SimTerm.Boot
import SimTerm.Bounded
import SimTerm.Builtin
import SimTerm.Command
import SimTerm.CommandError
import SimTerm.Config.Error
import SimTerm.Config.Settings
import SimTerm.Config.Store
import SimTerm.Config.Validation
import SimTerm.Console
import SimTerm.Double
import SimTerm.Failure
import SimTerm.FileSystem
import SimTerm.FileSystem.Node
import SimTerm.FileSystem.RcFiles
import SimTerm.History
import SimTerm.Journal
import SimTerm.Journal.Buffer
import SimTerm.Journal.Entry
import SimTerm.Journal.Event
import SimTerm.Json
import SimTerm.Json.Reader
import SimTerm.Json.Writer
import SimTerm.Main
import SimTerm.Moment
import SimTerm.Output
import SimTerm.Path
import SimTerm.Proofs.Command
import SimTerm.Proofs.Config.Export
import SimTerm.Proofs.Config.LevelName
import SimTerm.Proofs.Config.Loading
import SimTerm.Proofs.Config.Replacement
import SimTerm.Proofs.Config.Run
import SimTerm.Proofs.Console.Conversation
import SimTerm.Proofs.Fields
import SimTerm.Proofs.FileSystem.Creation
import SimTerm.Proofs.FileSystem.Growth
import SimTerm.Proofs.FileSystem.Places
import SimTerm.Proofs.FileSystem.Run
import SimTerm.Proofs.FileSystem.Spelling
import SimTerm.Proofs.FileSystem.Trail
import SimTerm.Proofs.FileSystem.Vanished
import SimTerm.Proofs.FileSystem.Walk
import SimTerm.Proofs.History.Recall
import SimTerm.Proofs.History.Run
import SimTerm.Proofs.Journal
import SimTerm.Proofs.Path
import SimTerm.Proofs.Records
import SimTerm.Proofs.Registry
import SimTerm.Proofs.Schema.Collections
import SimTerm.Proofs.Schema.Decision
import SimTerm.Proofs.Schema.Theme
import SimTerm.Proofs.Schema.Workflow
import SimTerm.Proofs.Session.Acceptance
import SimTerm.Proofs.Session.Call
import SimTerm.Proofs.Session.Copies
import SimTerm.Proofs.Session.Echo
import SimTerm.Proofs.Session.Ending
import SimTerm.Proofs.Session.Environment
import SimTerm.Proofs.Session.Expansion
import SimTerm.Proofs.Session.Invocation
import SimTerm.Proofs.Session.Listing
import SimTerm.Proofs.Session.Log
import SimTerm.Proofs.Session.Naming
import SimTerm.Proofs.Session.Numbering
import SimTerm.Proofs.Session.Opening
import SimTerm.Proofs.Session.Personas
import SimTerm.Proofs.Session.Refusal
import SimTerm.Proofs.Session.Rewiring
import SimTerm.Proofs.Session.Run
import SimTerm.Proofs.Session.Shape
import SimTerm.Proofs.Session.Stock
import SimTerm.Proofs.Session.Themes
import SimTerm.Proofs.Shell.Assignment
import SimTerm.Proofs.Shell.Loading
import SimTerm.Proofs.Shell.Prompt
import SimTerm.Proofs.Shell.RcLine
import SimTerm.Proofs.Shell.Separation
import SimTerm.Proofs.Shell.Tables
import SimTerm.Proofs.Style.Chunks
import SimTerm.Proofs.Style.Compound
import SimTerm.Proofs.Style.Cursor
import SimTerm.Proofs.Style.Desk
import SimTerm.Proofs.Style.Encoding
import SimTerm.Proofs.Style.Introducer
import SimTerm.Proofs.Style.Layout
import SimTerm.Proofs.Style.Overlong
import SimTerm.Proofs.Style.Palette
import SimTerm.Proofs.Style.Parameter
import SimTerm.Proofs.Style.Pulling
import SimTerm.Proofs.Style.Rendering
import SimTerm.Proofs.Style.Stripping
import SimTerm.Proofs.Tabs.Change
import SimTerm.Proofs.Tabs.Isolation
import SimTerm.Proofs.Tabs.Order
import SimTerm.Proofs.Text.Identifier
import SimTerm.Proofs.Text.Lowercase
import SimTerm.Proofs.Text.Words
import SimTerm.Proofs.Workflow.Rendering
import SimTerm.Proofs.Writing
import SimTerm.Proofs.Yaml.Assembly
import SimTerm.Proofs.Yaml.Block
import SimTerm.Proofs.Yaml.Composition
import SimTerm.Proofs.Yaml.Hexadecimal
import SimTerm.Proofs.Yaml.Kinds
import SimTerm.Proofs.Yaml.Leads
import SimTerm.Proofs.Yaml.Meeting
import SimTerm.Proofs.Yaml.Showing
import SimTerm.Proofs.Yaml.Steps
import SimTerm.Proofs.Yaml.Word
import SimTerm.Registry
import SimTerm.Schema
import SimTerm.Session
import SimTerm.Session.Builtins
import SimTerm.Session.Submission
import SimTerm.Shell
import SimTerm.Shell.Persona
import SimTerm.Shell.RcLine
import SimTerm.Style
import SimTerm.Style.Control
import SimTerm.Style.Segment
import SimTerm.Tabs
import SimTerm.Text.Blank
import SimTerm.Text.CodeUnit
import SimTerm.Text.Digit
import SimTerm.Text.Integer
import SimTerm.Text.Letter
import SimTerm.Text.Lowercase
import SimTerm.Text.Occurrence
import SimTerm.Text.Printable
import SimTerm.Text.Quoted
import SimTerm.Text.Range
import SimTerm.Text.Uppercase
import SimTerm.Theme
import SimTerm.Workflow
import SimTerm.Workflow.Template
import SimTerm.Yaml.Cursor
import SimTerm.Yaml.Document
import SimTerm.Yaml.Node
import SimTerm.Yaml.Node.Composition
import SimTerm.Yaml.Problem
import SimTerm.Yaml.Tag
import SimTerm.Yaml.Token
import SimTerm.Yaml.Token.Directive
import SimTerm.Yaml.Token.Scalar
import SimTerm.Yaml.Token.Stream
import SimTerm.Yaml.Value
import SimTerm.Yaml.Value.Scalar
