import SensorRelay.Auth.Claims
import SensorRelay.Auth.Header
import SensorRelay.Auth.Issuer
import SensorRelay.Auth.Members
import SensorRelay.Auth.RegisteredClaims
import SensorRelay.Auth.TokenHeader
import SensorRelay.Binding
import SensorRelay.Client.Endpoint
import SensorRelay.Client.Handshake
import SensorRelay.Client.MeasurementStream
import SensorRelay.Client.Query
import SensorRelay.Client.RandomSource
import SensorRelay.Client.SubscriptionSession
import SensorRelay.CommandLine.Invocation
import SensorRelay.CommandLine.Options
import SensorRelay.Config.Key
import SensorRelay.Config.Layer
import SensorRelay.Config.Load
import SensorRelay.Config.Reading
import SensorRelay.Config.Settings
import SensorRelay.Config.Value
import SensorRelay.Console.Line
import SensorRelay.Console.Sensor
import SensorRelay.Console.Subscriber
import SensorRelay.Crypto.Hmac
import SensorRelay.Crypto.Sha256
import SensorRelay.Double.Basic
import SensorRelay.Double.Notation
import SensorRelay.Double.Shortest
import SensorRelay.Error
import SensorRelay.Instant.Basic
import SensorRelay.Instant.Calendar
import SensorRelay.Instant.Clock
import SensorRelay.Json.Basic
import SensorRelay.Json.Number
import SensorRelay.Json.Reader
import SensorRelay.Json.Scan
import SensorRelay.Json.StringLiteral
import SensorRelay.Json.Writer
import SensorRelay.Launch
import SensorRelay.Logging
import SensorRelay.Logging.Directive
import SensorRelay.Logging.Pattern
import SensorRelay.Logging.Verbosity
import SensorRelay.Main
import SensorRelay.Measurement
import SensorRelay.Message
import SensorRelay.Network.Basic
import SensorRelay.Network.Manual
import SensorRelay.Network.Session
import SensorRelay.Network.Stream
import SensorRelay.Proofs.Client.Ledger
import SensorRelay.Proofs.Client.Session
import SensorRelay.Proofs.Json.Quoted
import SensorRelay.Proofs.Json.RoundTrip
import SensorRelay.Proofs.Network.Operations
import SensorRelay.Proofs.Server.Change
import SensorRelay.Proofs.Server.ControlPlane
import SensorRelay.Proofs.Server.Delivery
import SensorRelay.Proofs.Server.Directory
import SensorRelay.Proofs.Server.Exclusion
import SensorRelay.Proofs.Server.Run
import SensorRelay.Proofs.Server.Subscriber
import SensorRelay.Proofs.Server.Subscription
import SensorRelay.Proofs.Text.Ascii
import SensorRelay.Proofs.Uuid
import SensorRelay.Roster
import SensorRelay.Rpc
import SensorRelay.Rpc.Delivery
import SensorRelay.Scripted
import SensorRelay.Server.Accounts
import SensorRelay.Server.Basic
import SensorRelay.Server.Directory
import SensorRelay.Server.Feed
import SensorRelay.Server.History
import SensorRelay.Server.Operator
import SensorRelay.Server.Refusal
import SensorRelay.Server.Sensor
import SensorRelay.Server.Service
import SensorRelay.Server.Subscriber
import SensorRelay.Server.Watch
import SensorRelay.Service
import SensorRelay.SocketAddress
import SensorRelay.Text.Alphanumeric
import SensorRelay.Text.Base64Url
import SensorRelay.Text.Blank
import SensorRelay.Text.Hex
import SensorRelay.Text.Numeral
import SensorRelay.Text.Percent
import SensorRelay.Text.Utf8
import SensorRelay.Text.Utf8Fault
import SensorRelay.Toml.Date
import SensorRelay.Toml.Number
import SensorRelay.Toml.Reader
import SensorRelay.Toml.Table
import SensorRelay.Toml.Token
import SensorRelay.Uuid
import SensorRelay.Window
import SensorRelay.Wire.Codec
import SensorRelay.Wire.Field
import SensorRelay.Wire.Varint
import SensorRelay.Proofs.Auth.Claims
import SensorRelay.Proofs.Auth.Token
import SensorRelay.Proofs.Auth.Request
import SensorRelay.Proofs.Server.Refused
import SensorRelay.Proofs.Client.CallHistory
import SensorRelay.Proofs.Network.StreamOperations
import SensorRelay.Proofs.Client.LifeCycle
import SensorRelay.Proofs.Wire.Fields
import SensorRelay.Proofs.Wire.RoundTrip
import SensorRelay.Proofs.Instant
import SensorRelay.Proofs.Server.Retention
import SensorRelay.Proofs.Wire.Reencoding
import SensorRelay.Proofs.Server.Registry
import SensorRelay.Proofs.Server.Relay
import SensorRelay.Proofs.Server.Authorization
import SensorRelay.Proofs.Server.Bystanders
import SensorRelay.Proofs.Server.Announcements
import SensorRelay.Proofs.Network.Hosted
import SensorRelay.Proofs.Client.Agreement
import SensorRelay.Proofs.Client.Records
import SensorRelay.Proofs.Client.Recorded
import SensorRelay.Proofs.Calendar
import SensorRelay.Proofs.Chronology
import SensorRelay.Proofs.Server.HistoryQuery
import SensorRelay.Proofs.Server.Accounts
import SensorRelay.Proofs.Network.Overheard
import SensorRelay.Proofs.Console.Identity
import SensorRelay.Proofs.Console.Turns
import SensorRelay.Proofs.Text.Words
import SensorRelay.Proofs.Text.Numeral
import SensorRelay.Proofs.Console.Grammar
import SensorRelay.Proofs.Server.FanOut
import SensorRelay.Proofs.Config.Layers
import SensorRelay.Proofs.Config.Load
import SensorRelay.Proofs.Console.Emission
import SensorRelay.Proofs.Address.IPv4
import SensorRelay.Proofs.Address.IPv6
import SensorRelay.Proofs.Address.Host
import SensorRelay.Proofs.Json.Line
import SensorRelay.Proofs.Console.Roster
