import Telemetry.Binary64.Basic
import Telemetry.Binary64.Printer
import Telemetry.Binary64.Reader
import Telemetry.Calendar.Date
import Telemetry.Calendar.Moment
import Telemetry.Calendar.Reader
import Telemetry.Channel
import Telemetry.Client
import Telemetry.CodeTable
import Telemetry.CommandLine
import Telemetry.Config
import Telemetry.Config.File
import Telemetry.Decimal.Basic
import Telemetry.Decimal.Printer
import Telemetry.Decimal.Product
import Telemetry.Decimal.Reader
import Telemetry.Device
import Telemetry.Device.Build
import Telemetry.Device.Summary
import Telemetry.Document
import Telemetry.Document.Cursor
import Telemetry.Document.Lexer
import Telemetry.Document.Node
import Telemetry.Document.Printer
import Telemetry.Document.Reader
import Telemetry.Document.Scalars
import Telemetry.Document.Schema
import Telemetry.Document.Tag
import Telemetry.Document.Token
import Telemetry.Document.Value
import Telemetry.Fault
import Telemetry.FileReader
import Telemetry.Files
import Telemetry.Group
import Telemetry.Keyed
import Telemetry.Kind
import Telemetry.Library
import Telemetry.Library.Packaged
import Telemetry.Log
import Telemetry.Main
import Telemetry.Matching
import Telemetry.Network
import Telemetry.Pattern
import Telemetry.Pattern.CharTest
import Telemetry.Pattern.Expr
import Telemetry.Pattern.Matcher
import Telemetry.Pattern.Reader
import Telemetry.Poller
import Telemetry.Profile
import Telemetry.Profile.Probe
import Telemetry.Profile.Reader
import Telemetry.Reading
import Telemetry.Refresh
import Telemetry.Registry
import Telemetry.Service
import Telemetry.Template
import Telemetry.Text.Blank
import Telemetry.Text.Case
import Telemetry.Text.CharName
import Telemetry.Text.CharSet
import Telemetry.Text.Digit
import Telemetry.Text.Identifier
import Telemetry.Text.Integer
import Telemetry.Text.Lines
import Telemetry.Text.NameTable
import Telemetry.Text.Order
import Telemetry.Text.Printable
import Telemetry.Text.Quoted
import Telemetry.Text.Utf8
import Telemetry.Text.Word
import Telemetry.Transport.Http
import Telemetry.Transport.Tcp
import Telemetry.Url
import Telemetry.Url.Address
import Telemetry.Proofs.CodeTable.History
import Telemetry.Proofs.Device.History
import Telemetry.Proofs.Device.KeyOrder
import Telemetry.Proofs.Registry.Reading
import Telemetry.Proofs.Poller.Workers
import Telemetry.Proofs.Matching.Use
import Telemetry.Proofs.Registry.Configuration
import Telemetry.Proofs.Client
import Telemetry.Proofs.Profile.Sound
import Telemetry.Proofs.Library.Loading
import Telemetry.Proofs.Cache.Window
import Telemetry.Proofs.Device.Trace
import Telemetry.Proofs.Device.Windows
import Telemetry.Proofs.Decimal.Value
import Telemetry.Proofs.Reading.Validity
import Telemetry.Proofs.Device.Reachable
import Telemetry.Proofs.Poller.Published
import Telemetry.Proofs.CodeTable.Directions
import Telemetry.Proofs.Building.Records
import Telemetry.Proofs.Device.Records
import Telemetry.Proofs.Device.Rejected
import Telemetry.Proofs.Device.Attaching
import Telemetry.Proofs.Device.Insertion
import Telemetry.Proofs.Template.Pieces
import Telemetry.Proofs.Template.Substitution
import Telemetry.Proofs.Template.Expansion
import Telemetry.Proofs.Matching.Discovery
import Telemetry.Proofs.Poller.Agenda
import Telemetry.Proofs.Poller.Ticks
import Telemetry.Proofs.Poller.Schedule
import Telemetry.Proofs.CodeTable.Provenance
import Telemetry.Proofs.Pattern.Fuel
import Telemetry.Proofs.Pattern.Literal
import Telemetry.Proofs.Template.Settling
import Telemetry.Proofs.Group.Delimited
import Telemetry.Proofs.Decimal.RoundTrip
import Telemetry.Proofs.Decimal.Rounding
import Telemetry.Proofs.Device.Scaling
import Telemetry.Proofs.Reading.RoundTrip
import Telemetry.Proofs.Text.Order
import Telemetry.Proofs.Files.Names
import Telemetry.Proofs.Library.Overriding
import Telemetry.Proofs.Binary64.Whole
import Telemetry.Proofs.Pattern.Anchored
import Telemetry.Proofs.Document.Schema
import Telemetry.Proofs.Config.Ids
import Telemetry.Proofs.Config.Form
import Telemetry.Proofs.Config.Acceptance
import Telemetry.Proofs.Service.Ids
import Telemetry.Proofs.Device.Listing
import Telemetry.Proofs.Device.Attributes
import Telemetry.Proofs.Device.Lookups
import Telemetry.Proofs.Device.Described
