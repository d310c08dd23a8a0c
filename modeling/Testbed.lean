import Testbed.Act
import Testbed.Backend
import Testbed.Command
import Testbed.Config
import Testbed.Decimal.Read
import Testbed.Decimal.Shortest
import Testbed.Decimal.Whole
import Testbed.Docker.Arguments
import Testbed.Docker.Backend
import Testbed.Docker.Output
import Testbed.Environment.Basic
import Testbed.Environment.Closing
import Testbed.Environment.Creation
import Testbed.Environment.Readiness
import Testbed.Environment.Registry
import Testbed.Environment.Request
import Testbed.Environment.Run
import Testbed.Environment.Start
import Testbed.Failure
import Testbed.Files
import Testbed.Http
import Testbed.Json.Basic
import Testbed.Json.Decode
import Testbed.Json.Reader
import Testbed.Kind.Backend
import Testbed.Kind.Document
import Testbed.Kind.Manifest
import Testbed.Kind.Output
import Testbed.Launch
import Testbed.Metrics.Document
import Testbed.Metrics.Expectation
import Testbed.Metrics.Family
import Testbed.Metrics.Kind
import Testbed.Metrics.Line
import Testbed.Metrics.Line.Lexer
import Testbed.Metrics.Matcher
import Testbed.Metrics.Selection
import Testbed.Metrics.Source
import Testbed.Name
import Testbed.Options
import Testbed.Path
import Testbed.Pattern.Basic
import Testbed.Pattern.Category
import Testbed.Pattern.CharSet
import Testbed.Pattern.Fold
import Testbed.Pattern.Parser
import Testbed.Pattern.Script
import Testbed.Platform
import Testbed.Policy
import Testbed.Span
import Testbed.StandIn.Backend
import Testbed.StandIn.Network
import Testbed.StandIn.State
import Testbed.StandIn.Tools
import Testbed.Table
import Testbed.Tags
import Testbed.Text.Blank
import Testbed.Text.Printable
import Testbed.Text.Quoted
import Testbed.Text.Search
import Testbed.Text.Utf8
import Testbed.Tool
import Testbed.Url
import Testbed.World
import Testbed.Yaml.Basic
import Testbed.Yaml.Scalar
import Testbed.Proofs.Accounting
import Testbed.Proofs.Closing
import Testbed.Proofs.Evolution
import Testbed.Proofs.Faithful
import Testbed.Proofs.History
import Testbed.Proofs.Leaks
import Testbed.Proofs.Started
import Testbed.Proofs.Teardown
import Testbed.Proofs.MetricWait
import Testbed.Proofs.FailedLaunch
import Testbed.Proofs.Outline
import Testbed.Proofs.Grouping
import Testbed.Proofs.Families
import Testbed.Proofs.Rendering
import Testbed.Proofs.Tokens
import Testbed.Proofs.Grammar
import Testbed.Proofs.Lexing
import Testbed.Proofs.Recognition
import Testbed.Proofs.Placing
import Testbed.Proofs.RoundTrip
import Testbed.Proofs.Handling
import Testbed.Proofs.Lasting
import Testbed.Proofs.Accepted
import Testbed.Proofs.ReadyWait
import Testbed.Proofs.Listening
import Testbed.Proofs.Interrupted
import Testbed.Proofs.FailedRequest
import Testbed.Proofs.Enduring
import Testbed.Proofs.Addresses
import Testbed.Proofs.Directories
import Testbed.Proofs.Creating
import Testbed.Proofs.Sparing
import Testbed.Proofs.Remains
import Testbed.Proofs.Reserving
import Testbed.Proofs.Containers
import Testbed.Proofs.Layout
import Testbed.Proofs.Summing
import Testbed.Proofs.Scopes
import Testbed.Proofs.Presence
import Testbed.Proofs.Requests
import Testbed.Proofs.Spans
import Testbed.Proofs.Scanning
import Testbed.Proofs.Escapes
import Testbed.Proofs.Classes
import Testbed.Proofs.Reading
import Testbed.Proofs.Anchoring
import Testbed.Proofs.Rearranging
import Testbed.Proofs.Descriptions
import Testbed.Proofs.CommandLine
import Testbed.Proofs.SameWorkload
import Testbed.Proofs.BoundLabels
import Testbed.Proofs.Faults
import Testbed.Proofs.NodePorts
import Testbed.Proofs.PublishedPorts
import Testbed.Proofs.SameArguments
import Testbed.Proofs.Renderable
import Testbed.Proofs.CrossReferences
import Testbed.Proofs.AssignedPorts
import Testbed.Proofs.Retrying
import Testbed.Proofs.Windows
import Testbed.Proofs.Members
import Testbed.Proofs.Pacing
import Testbed.Proofs.Removal
import Testbed.Proofs.Drawing
import Testbed.Proofs.Declarations
import Testbed.Proofs.NodePaths
import Testbed.Proofs.SavedSettings
