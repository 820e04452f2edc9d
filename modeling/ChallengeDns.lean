import ChallengeDns.Access.Control
import ChallengeDns.Address.Basic
import ChallengeDns.Address.Reader
import ChallengeDns.Answer.Authority
import ChallengeDns.Answer.Serial
import ChallengeDns.Api.Raised
import ChallengeDns.Api.Request
import ChallengeDns.Api.Response
import ChallengeDns.Api.Routes
import ChallengeDns.Api.Status
import ChallengeDns.Calendar.Basic
import ChallengeDns.Challenge.Value
import ChallengeDns.CommandLine.Arguments
import ChallengeDns.CommandLine.Start
import ChallengeDns.Config.Check
import ChallengeDns.Config.Environment
import ChallengeDns.Config.Loader
import ChallengeDns.Config.Settings
import ChallengeDns.Data.Value
import ChallengeDns.Decimal.Basic
import ChallengeDns.Decimal.Nearest
import ChallengeDns.Decimal.Rounded
import ChallengeDns.Decimal.Shortest
import ChallengeDns.Json.Encoding
import ChallengeDns.Json.Reader
import ChallengeDns.Json.Token
import ChallengeDns.Json.Writer
import ChallengeDns.Log.Entry
import ChallengeDns.Log.Line
import ChallengeDns.Log.Policy
import ChallengeDns.Log.Record
import ChallengeDns.Log.Template
import ChallengeDns.Message.Basic
import ChallengeDns.Message.Cursor
import ChallengeDns.Message.Reader
import ChallengeDns.Message.RecordFormat
import ChallengeDns.Message.Writer
import ChallengeDns.Name.Basic
import ChallengeDns.Name.Contact
import ChallengeDns.Name.Prep
import ChallengeDns.Name.PrepTables
import ChallengeDns.Name.Punycode
import ChallengeDns.Name.Reader
import ChallengeDns.Server.Basic
import ChallengeDns.Shutdown.Basic
import ChallengeDns.Store.Basic
import ChallengeDns.Store.Disk
import ChallengeDns.Store.Key
import ChallengeDns.Store.Path
import ChallengeDns.Store.Records
import ChallengeDns.Store.StateFile
import ChallengeDns.Text.Base64
import ChallengeDns.Text.Basic
import ChallengeDns.Text.Decomposition
import ChallengeDns.Text.Digit
import ChallengeDns.Text.Normal
import ChallengeDns.Text.Printable
import ChallengeDns.Text.Quoted
import ChallengeDns.Text.Table
import ChallengeDns.Text.Upper
import ChallengeDns.Text.Utf8
import ChallengeDns.Transport.Tcp
import ChallengeDns.Transport.Udp
import ChallengeDns.Update.Gateway
import ChallengeDns.Yaml.Node
import ChallengeDns.Yaml.Reader
import ChallengeDns.Yaml.Scalar
import ChallengeDns.Yaml.Token
import ChallengeDns.Main
import ChallengeDns.Proofs.Name.Canonical
import ChallengeDns.Proofs.Store.Records
import ChallengeDns.Proofs.Store.Saving
import ChallengeDns.Proofs.Update.Run
import ChallengeDns.Proofs.Update.Atomicity
import ChallengeDns.Proofs.Config.Acceptance
import ChallengeDns.Proofs.Config.Tables
import ChallengeDns.Proofs.Address.Prefix
import ChallengeDns.Proofs.Access.Table
import ChallengeDns.Proofs.Access.Agreement
import ChallengeDns.Proofs.Update.History
import ChallengeDns.Proofs.Answer.Publication
import ChallengeDns.Proofs.Answer.Noninterference
import ChallengeDns.Proofs.Message.Length
import ChallengeDns.Proofs.Message.Reading
import ChallengeDns.Proofs.Message.Compression
import ChallengeDns.Proofs.Message.RoundTrip
import ChallengeDns.Proofs.Message.Parsing
import ChallengeDns.Proofs.Text.Base64
import ChallengeDns.Proofs.Challenge.Digest
import ChallengeDns.Proofs.Answer.Origin
import ChallengeDns.Proofs.Transport.Stream
import ChallengeDns.Proofs.Transport.Datagram
import ChallengeDns.Proofs.Data.Fallible
import ChallengeDns.Proofs.Data.Values
import ChallengeDns.Proofs.Text.Padded
import ChallengeDns.Proofs.Text.Digits
import ChallengeDns.Proofs.Calendar.Dates
import ChallengeDns.Proofs.Text.Decoding
import ChallengeDns.Proofs.Json.Strings
import ChallengeDns.Proofs.Json.Tokens
import ChallengeDns.Proofs.Json.Machine
import ChallengeDns.Proofs.Json.Members
import ChallengeDns.Proofs.Json.Grammar
import ChallengeDns.Proofs.Json.Depth
import ChallengeDns.Proofs.Json.Occurrence
import ChallengeDns.Proofs.Json.Writing
import ChallengeDns.Proofs.Name.Text
import ChallengeDns.Proofs.Name.Contact
import ChallengeDns.Proofs.Store.StateFile
import ChallengeDns.Proofs.Store.Decoding
import ChallengeDns.Proofs.Store.Opening
import ChallengeDns.Proofs.Store.Restart
import ChallengeDns.Proofs.Api.Requests
import ChallengeDns.Proofs.Api.Failures
import ChallengeDns.Proofs.Config.Building
import ChallengeDns.Proofs.Config.References
import ChallengeDns.Proofs.Config.Reporting
import ChallengeDns.Proofs.Answer.Envelope
import ChallengeDns.Proofs.Answer.Static
import ChallengeDns.Proofs.Config.Warnings
import ChallengeDns.Proofs.Answer.Failure
import ChallengeDns.Proofs.Config.Governing
import ChallengeDns.Proofs.Transport.Framing
import ChallengeDns.Proofs.Json.Sorting
import ChallengeDns.Proofs.Store.Interleaving
import ChallengeDns.Proofs.Config.Sections
import ChallengeDns.Proofs.Api.Uniformity
import ChallengeDns.Proofs.Address.Printing
import ChallengeDns.Proofs.Answer.Addresses
import ChallengeDns.Proofs.Answer.Strings
import ChallengeDns.Proofs.Answer.Serial
import ChallengeDns.Proofs.Config.Resolution
import ChallengeDns.Proofs.Config.Grammar
import ChallengeDns.Proofs.Decimal.Ratios
import ChallengeDns.Proofs.Decimal.Rounding
import ChallengeDns.Proofs.Decimal.Numerals
import ChallengeDns.Proofs.Json.Pairs
import ChallengeDns.Proofs.Json.Numbers
import ChallengeDns.Proofs.Json.Values
import ChallengeDns.Proofs.Log.Lines
