import FlowAudit.Agent
import FlowAudit.Backoff
import FlowAudit.Bounded
import FlowAudit.CommandLine.Arguments
import FlowAudit.CommandLine.Commands
import FlowAudit.CommandLine.Help
import FlowAudit.CommandLine.Report
import FlowAudit.Configuration
import FlowAudit.Configuration.Json
import FlowAudit.Configuration.Load
import FlowAudit.Configuration.Target
import FlowAudit.Configuration.Validity
import FlowAudit.Configuration.Yaml
import FlowAudit.Connection
import FlowAudit.Connection.Event
import FlowAudit.Connection.Hash
import FlowAudit.Connection.Json
import FlowAudit.Conntrack.Table
import FlowAudit.Conntrack.Watch
import FlowAudit.Correlator
import FlowAudit.Delivery.Dispatcher
import FlowAudit.Delivery.Queue
import FlowAudit.Delivery.Warning
import FlowAudit.Delivery.Worker
import FlowAudit.Digest.Sha256
import FlowAudit.Filter
import FlowAudit.Host.FileTree
import FlowAudit.Host.LocalSockets
import FlowAudit.Host.Path
import FlowAudit.Host.Process
import FlowAudit.Host.SystemError
import FlowAudit.Json
import FlowAudit.Json.Field
import FlowAudit.Json.Reader
import FlowAudit.Main
import FlowAudit.Net.Address
import FlowAudit.Net.Endpoint
import FlowAudit.Net.Notation
import FlowAudit.Number.Rounding
import FlowAudit.Pipeline
import FlowAudit.Proofs.Agent.Balance
import FlowAudit.Proofs.Agent.Capacity
import FlowAudit.Proofs.Agent.Life
import FlowAudit.Proofs.Agent.SelfTraffic
import FlowAudit.Proofs.Backoff
import FlowAudit.Proofs.Bounded.Capacity
import FlowAudit.Proofs.Bounded.Reference
import FlowAudit.Proofs.Bounded.Slots
import FlowAudit.Proofs.Bounded.View
import FlowAudit.Proofs.Configuration.Names
import FlowAudit.Proofs.Configuration.Reading
import FlowAudit.Proofs.Configuration.Validity
import FlowAudit.Proofs.Connection.Encoding
import FlowAudit.Proofs.Conntrack.Batch
import FlowAudit.Proofs.Conntrack.Delay
import FlowAudit.Proofs.Conntrack.Difference
import FlowAudit.Proofs.Conntrack.Extent
import FlowAudit.Proofs.Conntrack.Failure
import FlowAudit.Proofs.Conntrack.Listing
import FlowAudit.Proofs.Conntrack.Row
import FlowAudit.Proofs.Conntrack.Run
import FlowAudit.Proofs.Conntrack.Stream
import FlowAudit.Proofs.Correlator.History
import FlowAudit.Proofs.Correlator.Pairing
import FlowAudit.Proofs.Correlator.Repetition
import FlowAudit.Proofs.Correlator.Separation
import FlowAudit.Proofs.Correlator.Step
import FlowAudit.Proofs.Delivery.Accesses
import FlowAudit.Proofs.Delivery.Balance
import FlowAudit.Proofs.Delivery.Clock
import FlowAudit.Proofs.Delivery.Counters
import FlowAudit.Proofs.Delivery.Course
import FlowAudit.Proofs.Delivery.Event
import FlowAudit.Proofs.Delivery.Fate
import FlowAudit.Proofs.Delivery.Independence
import FlowAudit.Proofs.Delivery.Ledger
import FlowAudit.Proofs.Delivery.Lockstep
import FlowAudit.Proofs.Delivery.Run
import FlowAudit.Proofs.Delivery.Shutdown
import FlowAudit.Proofs.Delivery.Trial
import FlowAudit.Proofs.Delivery.Wakeup
import FlowAudit.Proofs.Delivery.Warning
import FlowAudit.Proofs.Filter
import FlowAudit.Proofs.Host.Lookup
import FlowAudit.Proofs.Host.Process
import FlowAudit.Proofs.Json
import FlowAudit.Proofs.Json.Reading
import FlowAudit.Proofs.Net.Endpoint
import FlowAudit.Proofs.Net.Notation
import FlowAudit.Proofs.Pipeline.Counters
import FlowAudit.Proofs.Pipeline.Lifetimes
import FlowAudit.Proofs.Pipeline.Suppression
import FlowAudit.Proofs.Pipeline.Trace
import FlowAudit.Proofs.Record
import FlowAudit.Proofs.Record.Reading
import FlowAudit.Proofs.Resolver.Attribution
import FlowAudit.Proofs.Resolver.Cache
import FlowAudit.Proofs.Resolver.Course
import FlowAudit.Proofs.Resolver.Memory
import FlowAudit.Proofs.Resolver.Search
import FlowAudit.Proofs.Resolver.Still
import FlowAudit.Proofs.Sink.Destination
import FlowAudit.Proofs.Sink.Frame
import FlowAudit.Proofs.Sink.Http
import FlowAudit.Proofs.Sink.Service
import FlowAudit.Proofs.Sink.Spelling
import FlowAudit.Proofs.Snapshot
import FlowAudit.Proofs.Sockets.Choice
import FlowAudit.Proofs.Sockets.Fit
import FlowAudit.Proofs.Sockets.Listing
import FlowAudit.Proofs.Sockets.Locality
import FlowAudit.Proofs.Sockets.Mapped
import FlowAudit.Proofs.Text.Hexadecimal
import FlowAudit.Proofs.Text.Numeral
import FlowAudit.Proofs.Text.Octet
import FlowAudit.Proofs.Text.Words
import FlowAudit.Proofs.Timestamp
import FlowAudit.Proofs.Unicode.Composition
import FlowAudit.Proofs.Url.Authority
import FlowAudit.Proofs.Url.Host
import FlowAudit.Proofs.Url.Name
import FlowAudit.Proofs.Url.Path
import FlowAudit.Proofs.Url.Percent
import FlowAudit.Proofs.Url.Punycode
import FlowAudit.Proofs.Url.Render
import FlowAudit.Proofs.Url.Scheme
import FlowAudit.Proofs.Url.Written
import FlowAudit.Proofs.Uuid
import FlowAudit.Record
import FlowAudit.Resolver
import FlowAudit.Sink
import FlowAudit.Sink.Http
import FlowAudit.Sink.Syslog
import FlowAudit.Snapshot
import FlowAudit.Sockets.Lookup
import FlowAudit.Sockets.Table
import FlowAudit.Surroundings
import FlowAudit.Text.Blank
import FlowAudit.Text.Duration
import FlowAudit.Text.Numeral
import FlowAudit.Text.Quoted
import FlowAudit.Text.Utf8
import FlowAudit.Timestamp
import FlowAudit.Unicode.Composition
import FlowAudit.Unicode.Runs
import FlowAudit.Unicode.Table.BidiClass
import FlowAudit.Unicode.Table.CombiningClass
import FlowAudit.Unicode.Table.Decomposition
import FlowAudit.Unicode.Table.DomainMapping
import FlowAudit.Unicode.Table.GraphemeExtend
import FlowAudit.Unicode.Table.JoiningType
import FlowAudit.Unicode.Table.Mark
import FlowAudit.Unicode.Table.Unprintable
import FlowAudit.Url.Basic
import FlowAudit.Url.Host
import FlowAudit.Url.Idna
import FlowAudit.Url.Parser
import FlowAudit.Url.Percent
import FlowAudit.Url.Punycode
import FlowAudit.Uuid
import FlowAudit.Yaml.Character
import FlowAudit.Yaml.Node
import FlowAudit.Yaml.Node.Grammar
import FlowAudit.Yaml.Scalar
import FlowAudit.Yaml.Token
import FlowAudit.Yaml.Token.Cursor
import FlowAudit.Yaml.Token.Lexer
import FlowAudit.Yaml.Token.Property
import FlowAudit.Yaml.Token.Scalar
