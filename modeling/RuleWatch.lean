import RuleWatch.CommandLine.Arguments
import RuleWatch.CommandLine.Option
import RuleWatch.Decimal.Binary
import RuleWatch.Decimal.Shortest
import RuleWatch.Fetch.Client
import RuleWatch.Fetch.Endpoint
import RuleWatch.Fetch.Fault
import RuleWatch.Fetch.Source
import RuleWatch.Json.Byte
import RuleWatch.Json.Fault
import RuleWatch.Json.Number
import RuleWatch.Json.Read
import RuleWatch.Json.Skip
import RuleWatch.Json.Text
import RuleWatch.Main
import RuleWatch.Net.Address
import RuleWatch.Net.Domain
import RuleWatch.Net.Host
import RuleWatch.Net.Percent
import RuleWatch.Net.Punycode
import RuleWatch.Net.Url
import RuleWatch.Net.UrlReader
import RuleWatch.Pattern.Bracket
import RuleWatch.Pattern.Compile
import RuleWatch.Pattern.Cursor
import RuleWatch.Pattern.Escape
import RuleWatch.Pattern.Fault
import RuleWatch.Pattern.Reader
import RuleWatch.Pattern.Search
import RuleWatch.Pattern.Shape
import RuleWatch.Pattern.Size
import RuleWatch.Pattern.Tree
import RuleWatch.Program.Fault
import RuleWatch.Program.Files
import RuleWatch.Program.Run
import RuleWatch.Proofs.Agreement
import RuleWatch.Proofs.Compiling
import RuleWatch.Proofs.Days
import RuleWatch.Proofs.Gates
import RuleWatch.Proofs.Labels
import RuleWatch.Proofs.Lives
import RuleWatch.Proofs.Sequential
import RuleWatch.Proofs.StoredContent
import RuleWatch.Proofs.Timestamps
import RuleWatch.Proofs.Turns
import RuleWatch.Proofs.WrittenRules
import RuleWatch.Proofs.WrittenText
import RuleWatch.Refresh.Cycle
import RuleWatch.Refresh.Delay
import RuleWatch.Refresh.Event
import RuleWatch.Refresh.Fault
import RuleWatch.Refresh.Loop
import RuleWatch.Refresh.Metrics
import RuleWatch.Refresh.Stage
import RuleWatch.Rule.Basic
import RuleWatch.Rule.Compile
import RuleWatch.Rule.Detector
import RuleWatch.Rule.Document
import RuleWatch.Settings.Assignment
import RuleWatch.Settings.Basic
import RuleWatch.Settings.EnvironmentFile
import RuleWatch.Settings.Features
import RuleWatch.Snapshot.Basic
import RuleWatch.Snapshot.Cache
import RuleWatch.Snapshot.Lock
import RuleWatch.Store.Basic
import RuleWatch.Store.Database
import RuleWatch.Store.Fault
import RuleWatch.Store.Location
import RuleWatch.Store.Memory
import RuleWatch.Store.Sheet
import RuleWatch.Store.Statement
import RuleWatch.Store.Table
import RuleWatch.Text.CodeSet
import RuleWatch.Text.NamedSet
import RuleWatch.Text.Numeral
import RuleWatch.Text.Pieces
import RuleWatch.Text.Quoted
import RuleWatch.Text.Utf8
import RuleWatch.Time.Calendar
import RuleWatch.Time.Instant
import RuleWatch.Time.Timestamp
import RuleWatch.Unicode.Age
import RuleWatch.Unicode.Attribute
import RuleWatch.Unicode.Break
import RuleWatch.Unicode.CaseVariants
import RuleWatch.Unicode.Category
import RuleWatch.Unicode.Composition
import RuleWatch.Unicode.Direction
import RuleWatch.Unicode.HostMapping
import RuleWatch.Unicode.Property
import RuleWatch.Unicode.Script
import RuleWatch.Watch.Basic
import RuleWatch.Watch.Page
import RuleWatch.Watch.Timer
import RuleWatch.Proofs.Punctuality
import RuleWatch.Proofs.Register
import RuleWatch.Proofs.Accounts
import RuleWatch.Proofs.ExactCounts
import RuleWatch.Proofs.Measurements
import RuleWatch.Proofs.Cancellation
import RuleWatch.Proofs.Deadlines
import RuleWatch.Proofs.Passing
import RuleWatch.Proofs.Spellings
import RuleWatch.Proofs.ValueForms
import RuleWatch.Proofs.Documents
import RuleWatch.Proofs.RuleLists
import RuleWatch.Proofs.Places
import RuleWatch.Proofs.Literals
import RuleWatch.Proofs.Overrides
import RuleWatch.Proofs.Addresses
import RuleWatch.Proofs.Fetching
import RuleWatch.Proofs.NewKinds
import RuleWatch.Proofs.Errands
import RuleWatch.Proofs.Scans
import RuleWatch.Proofs.SingleRefresh
import RuleWatch.Proofs.WrittenTables
import RuleWatch.Proofs.Batches
import RuleWatch.Proofs.Verdicts
import RuleWatch.Proofs.Paths
import RuleWatch.Proofs.FlagLists
import RuleWatch.Proofs.Loading
import RuleWatch.Proofs.Calendar
import RuleWatch.Proofs.TimestampForms
import RuleWatch.Proofs.SocketAddresses
import RuleWatch.Proofs.StoredTimestamps
import RuleWatch.Proofs.WrittenOptions
import RuleWatch.Proofs.CodeSets
import RuleWatch.Proofs.Quoting
import RuleWatch.Proofs.Messages
import RuleWatch.Proofs.Occurrences
