import RequestTracing.Application.Basic
import RequestTracing.Application.Contract
import RequestTracing.Application.Program
import RequestTracing.Application.Script
import RequestTracing.Application.Service
import RequestTracing.Attribute
import RequestTracing.Binary64
import RequestTracing.Command.Arguments
import RequestTracing.Command.Replay
import RequestTracing.Config
import RequestTracing.ConfigFile
import RequestTracing.Dictionary
import RequestTracing.Environ
import RequestTracing.Event
import RequestTracing.Exposition
import RequestTracing.Header.Capture
import RequestTracing.Header.Carrier
import RequestTracing.Header.Pattern
import RequestTracing.Header.Set
import RequestTracing.Header.Warning
import RequestTracing.Http.Authority
import RequestTracing.Http.Incoming
import RequestTracing.Http.Method
import RequestTracing.Http.RequestAttributes
import RequestTracing.Http.RequestUrl
import RequestTracing.Http.StatusLine
import RequestTracing.Http.Uri
import RequestTracing.Ipv6
import RequestTracing.Layer.Basic
import RequestTracing.Layer.Request
import RequestTracing.Layer.Traced
import RequestTracing.Log.Filter
import RequestTracing.Log.Line
import RequestTracing.Main
import RequestTracing.Meter
import RequestTracing.Proofs.Application.Fused
import RequestTracing.Proofs.Application.Script
import RequestTracing.Proofs.Application.Tally
import RequestTracing.Proofs.Application.Transparency
import RequestTracing.Proofs.Dictionary.Lookup
import RequestTracing.Proofs.Event.Kinds
import RequestTracing.Proofs.Header.Blank
import RequestTracing.Proofs.Header.Canonical
import RequestTracing.Proofs.Header.Carried
import RequestTracing.Proofs.Header.Grouping
import RequestTracing.Proofs.Header.Hiding
import RequestTracing.Proofs.Header.LetterCase
import RequestTracing.Proofs.Header.Literal
import RequestTracing.Proofs.Header.PatternList
import RequestTracing.Proofs.Header.Patterns
import RequestTracing.Proofs.Header.Response
import RequestTracing.Proofs.Header.Spelling
import RequestTracing.Proofs.Http.Description
import RequestTracing.Proofs.Http.HeaderVariables
import RequestTracing.Proofs.Http.HostPort
import RequestTracing.Proofs.Http.QuotedPath
import RequestTracing.Proofs.Http.RebuiltUrl
import RequestTracing.Proofs.Http.Reception
import RequestTracing.Proofs.Http.SpanName
import RequestTracing.Proofs.Http.UrlParts
import RequestTracing.Proofs.Http.Variables
import RequestTracing.Proofs.Nest.Attendance
import RequestTracing.Proofs.Nest.Balance
import RequestTracing.Proofs.Nest.Continuity
import RequestTracing.Proofs.Nest.Footprint
import RequestTracing.Proofs.Nest.Looks
import RequestTracing.Proofs.Nest.Propagation
import RequestTracing.Proofs.Nest.Sight
import RequestTracing.Proofs.Nest.Tally
import RequestTracing.Proofs.Nest.Trace
import RequestTracing.Proofs.Program.Echo
import RequestTracing.Proofs.Program.Leads
import RequestTracing.Proofs.Program.Moves
import RequestTracing.Proofs.Program.Run
import RequestTracing.Proofs.Program.Secluded
import RequestTracing.Proofs.Program.Simulation
import RequestTracing.Proofs.Program.Tally
import RequestTracing.Proofs.Regex.CaseSwitch
import RequestTracing.Proofs.Regex.LetterCase
import RequestTracing.Proofs.Regex.Repetition
import RequestTracing.Proofs.Request.Accounts
import RequestTracing.Proofs.Request.Balance
import RequestTracing.Proofs.Request.Course
import RequestTracing.Proofs.Request.Discreet
import RequestTracing.Proofs.Request.Echo
import RequestTracing.Proofs.Request.Export
import RequestTracing.Proofs.Request.ExportedOutcome
import RequestTracing.Proofs.Request.Invariant
import RequestTracing.Proofs.Request.LoggedEnd
import RequestTracing.Proofs.Request.Operations
import RequestTracing.Proofs.Request.Order
import RequestTracing.Proofs.Request.Redaction
import RequestTracing.Proofs.Request.Run
import RequestTracing.Proofs.Request.Settlement
import RequestTracing.Proofs.Request.StatusCode
import RequestTracing.Proofs.Request.Unrecorded
import RequestTracing.Proofs.Session.Isolation
import RequestTracing.Proofs.Session.Lanes
import RequestTracing.Proofs.Session.Turns
import RequestTracing.Proofs.Span.Current
import RequestTracing.Proofs.Span.Discreet
import RequestTracing.Proofs.Span.Logged
import RequestTracing.Proofs.Span.Outcome
import RequestTracing.Proofs.Span.Place
import RequestTracing.Proofs.Span.Record
import RequestTracing.Proofs.Span.Renumber
import RequestTracing.Proofs.Span.Updates
import RequestTracing.Proofs.Span.Values
import RequestTracing.Proofs.Text.ByteOrder
import RequestTracing.Proofs.Text.PercentDecoding
import RequestTracing.Proofs.Text.ReadBack
import RequestTracing.Proofs.Text.Trim
import RequestTracing.Proofs.Trace.RoundTrip
import RequestTracing.Regex.Basic
import RequestTracing.Regex.Bracket
import RequestTracing.Regex.CharClass
import RequestTracing.Regex.Escape
import RequestTracing.Regex.Flags
import RequestTracing.Regex.Parser
import RequestTracing.Regex.Property
import RequestTracing.Regex.Weight
import RequestTracing.Session
import RequestTracing.SocketAddress
import RequestTracing.Span.Basic
import RequestTracing.Span.Distributed
import RequestTracing.Span.Logged
import RequestTracing.Span.Response
import RequestTracing.Span.Session
import RequestTracing.Span.Status
import RequestTracing.Telemetry
import RequestTracing.Text.AsciiCase
import RequestTracing.Text.Blank
import RequestTracing.Text.Hexadecimal
import RequestTracing.Text.Integer
import RequestTracing.Text.Percent
import RequestTracing.Text.Pieces
import RequestTracing.Text.Quoted
import RequestTracing.Toml.Document
import RequestTracing.Toml.Scalar
import RequestTracing.Toml.Text
import RequestTracing.Toml.Value
import RequestTracing.Trace.Context
import RequestTracing.Trace.Propagation
import RequestTracing.Trace.State
import RequestTracing.Tracer
import RequestTracing.Unicode.CaseFolding
import RequestTracing.Unicode.Category
import RequestTracing.Unicode.Composition
import RequestTracing.Unicode.Direction
import RequestTracing.Unicode.DomainMapping
import RequestTracing.Unicode.Joining
import RequestTracing.Unicode.Property
import RequestTracing.Unicode.Ranges
import RequestTracing.Unicode.Script
import RequestTracing.Unicode.ScriptExtension
import RequestTracing.Unicode.Substitution
import RequestTracing.Unicode.Visible
import RequestTracing.Unicode.Word
import RequestTracing.Url.Basic
import RequestTracing.Url.Credentials
import RequestTracing.Url.Domain
import RequestTracing.Url.Host
import RequestTracing.Url.Parser
import RequestTracing.Url.Path
import RequestTracing.Url.Punycode
import RequestTracing.Proofs.Http.LabelFacts
import RequestTracing.Proofs.Http.QuotedUrl
import RequestTracing.Proofs.Http.StatusLine
import RequestTracing.Proofs.Url.Encoded
import RequestTracing.Proofs.Url.Path
import RequestTracing.Proofs.Url.Address
import RequestTracing.Proofs.Unicode.Tables
import RequestTracing.Proofs.Url.Domain
import RequestTracing.Proofs.Url.HostText
import RequestTracing.Proofs.Url.NormalForm
import RequestTracing.Proofs.Url.Reread
import RequestTracing.Proofs.Url.Credentials
import RequestTracing.Proofs.Url.Punycode
import RequestTracing.Proofs.Dictionary.Listing
import RequestTracing.Proofs.Header.AddedPairs
import RequestTracing.Proofs.Span.Lifetime
