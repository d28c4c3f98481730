import NetworkTime.Access
import NetworkTime.Address
import NetworkTime.Address.Parser
import NetworkTime.Address.Printer
import NetworkTime.ClientTable
import NetworkTime.Clock
import NetworkTime.CommandLine
import NetworkTime.Config
import NetworkTime.Config.Check
import NetworkTime.Config.Ini
import NetworkTime.Config.Json.Reader
import NetworkTime.Config.Json.Token
import NetworkTime.Config.Load
import NetworkTime.Config.Serving
import NetworkTime.Config.Setting
import NetworkTime.Config.Summary
import NetworkTime.Config.Yaml.Cursor
import NetworkTime.Config.Yaml.Document
import NetworkTime.Config.Yaml.Event
import NetworkTime.Config.Yaml.Lexer
import NetworkTime.Config.Yaml.Reader
import NetworkTime.Config.Yaml.Scalar
import NetworkTime.Config.Yaml.Token
import NetworkTime.Daemon
import NetworkTime.Exchange
import NetworkTime.Host.Files
import NetworkTime.Host.Path
import NetworkTime.Instant
import NetworkTime.Log
import NetworkTime.Main
import NetworkTime.Metrics
import NetworkTime.Network
import NetworkTime.Packet
import NetworkTime.Packet.Codec
import NetworkTime.Packet.Validity
import NetworkTime.Plan
import NetworkTime.Positional
import NetworkTime.RateLimit
import NetworkTime.ReferenceId
import NetworkTime.Report
import NetworkTime.Request
import NetworkTime.Response
import NetworkTime.ServerError
import NetworkTime.Service
import NetworkTime.Session
import NetworkTime.SystemState
import NetworkTime.Text.Blank
import NetworkTime.Text.Integer
import NetworkTime.Text.Quoted
import NetworkTime.Text.Shapeless
import NetworkTime.Timestamp
import NetworkTime.Wire.Layout
import NetworkTime.Proofs.Packet.Roundtrip
import NetworkTime.Proofs.Packet.Writing
import NetworkTime.Proofs.Packet.Stamp
import NetworkTime.Proofs.Packet.Header
import NetworkTime.Proofs.Packet.Diagnosis
import NetworkTime.Proofs.Access
import NetworkTime.Proofs.Service.Outcome
import NetworkTime.Proofs.Service.Answer
import NetworkTime.Proofs.ClientTable.Entries
import NetworkTime.Proofs.ClientTable.Room
import NetworkTime.Proofs.ClientTable.Retention
import NetworkTime.Proofs.ClientTable.History
import NetworkTime.Proofs.ClientTable.Capacity
import NetworkTime.Proofs.ClientTable.Readmission
import NetworkTime.Proofs.RateLimit.Guarantee
import NetworkTime.Proofs.RateLimit.Count
import NetworkTime.Proofs.Address
import NetworkTime.Proofs.Instant
import NetworkTime.Proofs.Instant.Count
import NetworkTime.Proofs.Timestamp.Rounding
import NetworkTime.Proofs.Timestamp.Era
import NetworkTime.Proofs.Timestamp.Nearest
import NetworkTime.Proofs.Timestamp.Pivot
import NetworkTime.Proofs.Timestamp.Conversion
import NetworkTime.Proofs.Timestamp.Accepted
import NetworkTime.Proofs.ReferenceId
import NetworkTime.Proofs.Exchange
import NetworkTime.Proofs.Exchange.Range
import NetworkTime.Proofs.Service.Reception
import NetworkTime.Proofs.Service.Tally
import NetworkTime.Proofs.ClientTable.Independence
import NetworkTime.Proofs.Service.Fate
import NetworkTime.Proofs.Service.Thinning
import NetworkTime.Proofs.Service.Influence
import NetworkTime.Proofs.Service.Reflection
import NetworkTime.Proofs.Service.Fitness
import NetworkTime.Proofs.Text.Blank
import NetworkTime.Proofs.Text.Lines
import NetworkTime.Proofs.Text.Digits
import NetworkTime.Proofs.Text.Numeral
import NetworkTime.Proofs.Address.Octets
import NetworkTime.Proofs.Address.Groups
import NetworkTime.Proofs.Address.Grammar
import NetworkTime.Proofs.Address.Roundtrip
import NetworkTime.Proofs.Address.Alphabet
import NetworkTime.Proofs.Network.Host
import NetworkTime.Proofs.Network.Prefix
import NetworkTime.Proofs.Network.Grammar
import NetworkTime.Proofs.Config.Serving
import NetworkTime.Proofs.Config.Assign
import NetworkTime.Proofs.Config.Reports
import NetworkTime.Proofs.Config.Problems
import NetworkTime.Proofs.Config.Enter
import NetworkTime.Proofs.Config.Ini.Line
import NetworkTime.Proofs.Config.Ini.Meaning
import NetworkTime.Proofs.Config.Ini.Rewording
import NetworkTime.Proofs.Config.Ini.Refusal
import NetworkTime.Proofs.Config.Ini.Value
import NetworkTime.Proofs.Config.Layout
import NetworkTime.Proofs.Config.Ini.Record
import NetworkTime.Proofs.Config.Ini.Roundtrip
import NetworkTime.Proofs.Config.Json.Text
import NetworkTime.Proofs.Config.Json.Lexeme
import NetworkTime.Proofs.Config.Json.Value
import NetworkTime.Proofs.Config.Json.Record
import NetworkTime.Proofs.Config.Agreement
import NetworkTime.Proofs.Service.Readings
