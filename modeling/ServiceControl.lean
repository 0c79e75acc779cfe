import ServiceControl.Adapter.Basic
import ServiceControl.Adapter.Page
import ServiceControl.Adapter.Registry
import ServiceControl.Adapter.Scripted
import ServiceControl.Bundled.Block
import ServiceControl.Bundled.Kinds
import ServiceControl.Bundled.Log
import ServiceControl.Bundled.Prometheus
import ServiceControl.Bundled.Statsd
import ServiceControl.Bundled.Whitelist
import ServiceControl.Call.Basic
import ServiceControl.Call.Json
import ServiceControl.Call.Names
import ServiceControl.Call.Samples
import ServiceControl.Checking.Pool
import ServiceControl.Collection.SortedMap
import ServiceControl.Collection.Table
import ServiceControl.Command.Client
import ServiceControl.Command.Line
import ServiceControl.Command.Server
import ServiceControl.Digest.Sha1
import ServiceControl.Gateway.Basic
import ServiceControl.Gateway.Deployment
import ServiceControl.Http.Message
import ServiceControl.Http.Route
import ServiceControl.Http.Service
import ServiceControl.Http.Target
import ServiceControl.Json.Numeral
import ServiceControl.Json.Record
import ServiceControl.Json.Term
import ServiceControl.Json.Value
import ServiceControl.Json.Writer
import ServiceControl.Main
import ServiceControl.Net.Address
import ServiceControl.Net.Endpoint
import ServiceControl.Net.Host
import ServiceControl.Net.Label
import ServiceControl.Net.Lookup
import ServiceControl.Net.NameMapping
import ServiceControl.Net.Network
import ServiceControl.Net.Punycode
import ServiceControl.Net.Reach
import ServiceControl.Net.Url
import ServiceControl.Number.Binary64
import ServiceControl.Number.Decimal
import ServiceControl.Number.Reckoning
import ServiceControl.Number.Shortest
import ServiceControl.Params.Basic
import ServiceControl.Params.Decode
import ServiceControl.Params.Schema
import ServiceControl.Proofs.Checking.Accounting
import ServiceControl.Proofs.Checking.Interleaving
import ServiceControl.Proofs.Checking.Keeping
import ServiceControl.Proofs.Checking.Metering
import ServiceControl.Proofs.Checking.Steps
import ServiceControl.Proofs.Checking.Transparency
import ServiceControl.Proofs.Checking.Unloading
import ServiceControl.Proofs.Checking.Vetting
import ServiceControl.Proofs.Gateway.Calls
import ServiceControl.Proofs.Gateway.Counters
import ServiceControl.Proofs.Gateway.Metering
import ServiceControl.Proofs.Gateway.Phases
import ServiceControl.Proofs.Gateway.Starting
import ServiceControl.Proofs.Gateway.Stopping
import ServiceControl.Proofs.Gateway.Traffic
import ServiceControl.Proofs.Http.Attending
import ServiceControl.Proofs.Http.Demands
import ServiceControl.Proofs.Http.Serving
import ServiceControl.Proofs.Http.Statuses
import ServiceControl.Proofs.Http.Waiting
import ServiceControl.Proofs.Net.Containment
import ServiceControl.Proofs.Params.Conforming
import ServiceControl.Proofs.Params.Places
import ServiceControl.Proofs.Params.Reporting
import ServiceControl.Proofs.Params.Respelling
import ServiceControl.Proofs.Reload.Continuing
import ServiceControl.Proofs.Reload.Fairness
import ServiceControl.Proofs.Reload.Looping
import ServiceControl.Proofs.Reload.Operating
import ServiceControl.Proofs.Reload.Overlapping
import ServiceControl.Proofs.Reload.Recording
import ServiceControl.Proofs.Reload.Rounds
import ServiceControl.Proofs.Reload.Serialising
import ServiceControl.Proofs.Reports.Batches
import ServiceControl.Proofs.Reports.Breaking
import ServiceControl.Proofs.Reports.Draining
import ServiceControl.Proofs.Reports.Fanout
import ServiceControl.Proofs.Reports.Holding
import ServiceControl.Proofs.Reports.Metering
import ServiceControl.Proofs.Reports.Passing
import ServiceControl.Proofs.Reports.Places
import ServiceControl.Proofs.Reports.Punctuality
import ServiceControl.Proofs.Reports.Settling
import ServiceControl.Proofs.Reports.Steps
import ServiceControl.Proofs.Reports.Timing
import ServiceControl.Proofs.Reports.Working
import ServiceControl.Proofs.Series.Recording
import ServiceControl.Proofs.Series.Sampling
import ServiceControl.Proofs.Series.Tallying
import ServiceControl.Proofs.Services.Bindings
import ServiceControl.Proofs.Services.Conversion
import ServiceControl.Proofs.Services.Coverage
import ServiceControl.Proofs.Services.Reading
import ServiceControl.Proofs.Services.Records
import ServiceControl.Proofs.Services.Repeating
import ServiceControl.Proofs.Services.Resolution
import ServiceControl.Proofs.Services.Scopes
import ServiceControl.Proofs.Services.Writing
import ServiceControl.Proofs.Whitelist.Refreshing
import ServiceControl.Reload.Loop
import ServiceControl.Reload.Reloader
import ServiceControl.Reload.Source
import ServiceControl.Reports.Batcher
import ServiceControl.Reports.Pipeline
import ServiceControl.Reports.Queue
import ServiceControl.SelfMetrics
import ServiceControl.Services.Basic
import ServiceControl.Services.Convert
import ServiceControl.Services.Resolve
import ServiceControl.Services.Yaml
import ServiceControl.Settings.Basic
import ServiceControl.Settings.LogFilter
import ServiceControl.Settings.Text
import ServiceControl.Settings.Validation
import ServiceControl.Text.Ascii
import ServiceControl.Text.Blank
import ServiceControl.Text.Bytes
import ServiceControl.Text.Cut
import ServiceControl.Text.Hex
import ServiceControl.Text.Shown
import ServiceControl.Text.Utf8
import ServiceControl.Toml.Document
import ServiceControl.Toml.Token
import ServiceControl.Unicode.Composition
import ServiceControl.Unicode.Direction
import ServiceControl.Unicode.Hidden
import ServiceControl.Unicode.Joining
import ServiceControl.Unicode.Mark
import ServiceControl.Unicode.Runs
import ServiceControl.Yaml.Cursor
import ServiceControl.Yaml.Node
import ServiceControl.Yaml.OfJson
import ServiceControl.Yaml.Scalar
import ServiceControl.Yaml.Token
import ServiceControl.Yaml.Value
import ServiceControl.Proofs.Adapter.Registering
import ServiceControl.Proofs.Series.Labelling
import ServiceControl.Proofs.Statsd.Lines
import ServiceControl.Proofs.Statsd.Naming
import ServiceControl.Proofs.Settings.Rules
import ServiceControl.Proofs.Services.Paths
import ServiceControl.Proofs.Command.Calling
import ServiceControl.Proofs.Params.Ordering
import ServiceControl.Proofs.Params.Identity
import ServiceControl.Proofs.Checking.Finding
import ServiceControl.Proofs.Checking.Applying
import ServiceControl.Proofs.Services.Growing
import ServiceControl.Proofs.Net.Ports
import ServiceControl.Proofs.Command.Overriding
