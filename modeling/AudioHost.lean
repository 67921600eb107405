import AudioHost.Command.Argument
import AudioHost.Command.Listing
import AudioHost.Command.Outcome
import AudioHost.Command.Request
import AudioHost.Command.Run
import AudioHost.Command.Tasks
import AudioHost.Discovery.Candidates
import AudioHost.Discovery.Checker
import AudioHost.Discovery.Enumeration
import AudioHost.Discovery.Probe
import AudioHost.Discovery.Program
import AudioHost.Discovery.Report
import AudioHost.Discovery.Scanner
import AudioHost.Discovery.SearchPath
import AudioHost.Discovery.Selection
import AudioHost.Discovery.Supervisor
import AudioHost.Discovery.Transcript
import AudioHost.Discovery.Verdict
import AudioHost.Files.NamePattern
import AudioHost.Files.Path
import AudioHost.Files.Tree
import AudioHost.Grid.Basic
import AudioHost.Grid.Column
import AudioHost.Grid.Columns
import AudioHost.Grid.Notice
import AudioHost.Grid.Rows
import AudioHost.Grid.Spread
import AudioHost.Grid.Storage
import AudioHost.Host.Basic
import AudioHost.Host.Registry
import AudioHost.Json.Number
import AudioHost.Json.Printer
import AudioHost.Json.Reader
import AudioHost.Json.Value
import AudioHost.Machine.Basic
import AudioHost.Main
import AudioHost.Native.Descriptor
import AudioHost.Native.Journal
import AudioHost.Native.Linker
import AudioHost.Native.Reading
import AudioHost.Native.Specimen
import AudioHost.Native.Specimens
import AudioHost.Native.SystemLibrary
import AudioHost.Number.Binary
import AudioHost.Number.Decimal
import AudioHost.Number.Shortest
import AudioHost.Number.Style
import AudioHost.Plugin.Error
import AudioHost.Plugin.Identifier
import AudioHost.Plugin.ObjectId
import AudioHost.Plugin.Port
import AudioHost.Plugin.Record
import AudioHost.Plugin.Schema
import AudioHost.Proofs.Discovery.Answering
import AudioHost.Proofs.Discovery.Checking
import AudioHost.Proofs.Discovery.Contributions
import AudioHost.Proofs.Discovery.Copies
import AudioHost.Proofs.Discovery.Isolation
import AudioHost.Proofs.Discovery.Judging
import AudioHost.Proofs.Discovery.Lines
import AudioHost.Proofs.Discovery.Listing
import AudioHost.Proofs.Discovery.Loading
import AudioHost.Proofs.Discovery.Reaching
import AudioHost.Proofs.Discovery.Restarts
import AudioHost.Proofs.Discovery.Settling
import AudioHost.Proofs.Discovery.Sights
import AudioHost.Proofs.Files.Following
import AudioHost.Proofs.Files.Linked
import AudioHost.Proofs.Files.Names
import AudioHost.Proofs.Files.Order
import AudioHost.Proofs.Grid.Announcing
import AudioHost.Proofs.Grid.Calls
import AudioHost.Proofs.Grid.Compression
import AudioHost.Proofs.Grid.Contents
import AudioHost.Proofs.Grid.Document
import AudioHost.Proofs.Grid.Extents
import AudioHost.Proofs.Grid.Finishing
import AudioHost.Proofs.Grid.Heights
import AudioHost.Proofs.Grid.History
import AudioHost.Proofs.Grid.References
import AudioHost.Proofs.Grid.Rows
import AudioHost.Proofs.Grid.Runs
import AudioHost.Proofs.Grid.Spread
import AudioHost.Proofs.Grid.Storage
import AudioHost.Proofs.Grid.TimeLine
import AudioHost.Proofs.Grid.Writing
import AudioHost.Proofs.Host.Accounting
import AudioHost.Proofs.Host.Agreement
import AudioHost.Proofs.Host.Borrowing
import AudioHost.Proofs.Host.Orders
import AudioHost.Proofs.Host.Reporting
import AudioHost.Proofs.Host.Scanning
import AudioHost.Proofs.Machine.Keeping
import AudioHost.Proofs.Native.Lifetimes
import AudioHost.Proofs.Native.Opening
import AudioHost.Proofs.Native.Sources
import AudioHost.Proofs.Native.Tables
import AudioHost.Proofs.Native.Users
import AudioHost.Proofs.Plugin.Identifier
import AudioHost.Proofs.Plugin.Stems
import AudioHost.Proofs.Rack.Attempts
import AudioHost.Proofs.Rack.Books
import AudioHost.Proofs.Rack.Calls
import AudioHost.Proofs.Rack.Canonical
import AudioHost.Proofs.Rack.Current
import AudioHost.Proofs.Rack.Custody
import AudioHost.Proofs.Rack.Ending
import AudioHost.Proofs.Rack.Holdings
import AudioHost.Proofs.Rack.Lifetimes
import AudioHost.Proofs.Rack.Locating
import AudioHost.Proofs.Rack.Making
import AudioHost.Proofs.Rack.Orders
import AudioHost.Proofs.Rack.Staying
import AudioHost.Proofs.Rack.Switching
import AudioHost.Proofs.Rack.Undoing
import AudioHost.Proofs.Rack.Uses
import AudioHost.Proofs.Rack.Wiring
import AudioHost.Proofs.Taxonomy.Canonical
import AudioHost.Proofs.Taxonomy.Categories
import AudioHost.Proofs.Text.Markup
import AudioHost.Proofs.Text.Split
import AudioHost.Proofs.Text.Utf8
import AudioHost.Rack.Basic
import AudioHost.Rack.Bench
import AudioHost.Rack.Engine
import AudioHost.Rack.Instance
import AudioHost.Rack.Locate
import AudioHost.Settings.Basic
import AudioHost.Settings.Layer
import AudioHost.Settings.Load
import AudioHost.Settings.Source
import AudioHost.Settings.Value
import AudioHost.Shell.Alias
import AudioHost.Shell.Builtin
import AudioHost.Shell.Condition
import AudioHost.Shell.Control
import AudioHost.Shell.Expansion
import AudioHost.Shell.Fields
import AudioHost.Shell.Figures
import AudioHost.Shell.Mask
import AudioHost.Shell.Number
import AudioHost.Shell.Pattern
import AudioHost.Shell.Process
import AudioHost.Shell.Reader
import AudioHost.Shell.Regex
import AudioHost.Shell.Run
import AudioHost.Shell.Script
import AudioHost.Shell.Signal
import AudioHost.Shell.State
import AudioHost.Shell.Sum
import AudioHost.Shell.Syntax
import AudioHost.Shell.Tool
import AudioHost.Shell.Tool.Arguments
import AudioHost.Shell.Tool.Basic
import AudioHost.Shell.Tool.Editing
import AudioHost.Shell.Tool.Finding
import AudioHost.Shell.Tool.Lines
import AudioHost.Shell.Tool.Names
import AudioHost.Shell.Tool.Search
import AudioHost.Shell.Tool.Showing
import AudioHost.Shell.Tool.Tree
import AudioHost.Shell.Words
import AudioHost.Shell.Writing
import AudioHost.Taxonomy.Basic
import AudioHost.Taxonomy.Files
import AudioHost.Terminal.Classes
import AudioHost.Terminal.Table
import AudioHost.Terminal.Width
import AudioHost.Text.Markup
import AudioHost.Text.Split
import AudioHost.Text.Utf8
import AudioHost.Toml.Reader
import AudioHost.Toml.Scalar
import AudioHost.Toml.Table
import AudioHost.Toml.Text
