import LcdPanel.Bytes.Hex
import LcdPanel.Config.Flags
import LcdPanel.Config.Load
import LcdPanel.Config.Logging
import LcdPanel.Config.Settings
import LcdPanel.Config.Usage
import LcdPanel.Demo.Draw
import LcdPanel.Demo.Fields
import LcdPanel.Demo.Rider
import LcdPanel.Demo.Run
import LcdPanel.Demo.Scroll
import LcdPanel.Display.Device
import LcdPanel.Display.Exchange
import LcdPanel.Display.Screen
import LcdPanel.Fault
import LcdPanel.Frame.Checksum
import LcdPanel.Frame.Codec
import LcdPanel.Frame.Packet
import LcdPanel.Frame.Table
import LcdPanel.Json.Decode
import LcdPanel.Json.Encode
import LcdPanel.Json.Scanner
import LcdPanel.Link.Baud
import LcdPanel.Link.Conn
import LcdPanel.Link.Error
import LcdPanel.Link.Keypad
import LcdPanel.Link.Report
import LcdPanel.Link.State
import LcdPanel.Link.Stream
import LcdPanel.Main
import LcdPanel.Program.Commands
import LcdPanel.Program.Help
import LcdPanel.Program.Startup
import LcdPanel.Proofs.Demo.Selection
import LcdPanel.Proofs.Display.Arguments
import LcdPanel.Proofs.Display.Queries
import LcdPanel.Proofs.Display.Runs
import LcdPanel.Proofs.Display.Screen
import LcdPanel.Proofs.Frame.Checksum
import LcdPanel.Proofs.Frame.Decode
import LcdPanel.Proofs.Frame.Reflection
import LcdPanel.Proofs.Frame.Verdict
import LcdPanel.Proofs.Json.Quoted
import LcdPanel.Proofs.Json.Record
import LcdPanel.Proofs.Json.RoundTrip
import LcdPanel.Proofs.Link.Accumulation
import LcdPanel.Proofs.Link.Exchange
import LcdPanel.Proofs.Link.Handoff
import LcdPanel.Proofs.Link.Lifecycle
import LcdPanel.Proofs.Link.Machine
import LcdPanel.Proofs.Link.Program
import LcdPanel.Proofs.Link.Replies
import LcdPanel.Proofs.Link.Reports
import LcdPanel.Proofs.Link.Resync
import LcdPanel.Proofs.Link.Serial
import LcdPanel.Proofs.Link.Steps
import LcdPanel.Proofs.Remote.Bridge
import LcdPanel.Proofs.Remote.Frames
import LcdPanel.Proofs.Remote.Serving
import LcdPanel.Proofs.Remote.Subscriptions
import LcdPanel.Proofs.Remote.TopicFilter
import LcdPanel.Proofs.Remote.Typed
import LcdPanel.Proofs.Serial.Driver
import LcdPanel.Proofs.Serial.PartialWrites
import LcdPanel.Proofs.Serial.ReadLoop
import LcdPanel.Proofs.Task.Gathering
import LcdPanel.Proofs.Task.Iterations
import LcdPanel.Proofs.Task.Sequential
import LcdPanel.Proofs.Text.Encoding
import LcdPanel.Proofs.Wire.RoundTrip
import LcdPanel.Remote.Bridge
import LcdPanel.Remote.Envelope
import LcdPanel.Remote.Message
import LcdPanel.Remote.Options
import LcdPanel.Remote.Queue
import LcdPanel.Remote.Relay
import LcdPanel.Remote.Socket
import LcdPanel.Remote.Topic
import LcdPanel.Session.Calls
import LcdPanel.Session.Script
import LcdPanel.Session.Shell
import LcdPanel.Session.State
import LcdPanel.Session.Step
import LcdPanel.Shell.Command
import LcdPanel.Task.Errors
import LcdPanel.Task.Loop
import LcdPanel.Task.Runner
import LcdPanel.Text.Decimal
import LcdPanel.Text.Glob
import LcdPanel.Text.Printable
import LcdPanel.Text.Quote
import LcdPanel.Text.Radix
import LcdPanel.Text.Utf8
import LcdPanel.Time.Duration
import LcdPanel.Time.Parse
import LcdPanel.Toml.Date
import LcdPanel.Toml.Document
import LcdPanel.Toml.Number
import LcdPanel.Toml.Parse
import LcdPanel.Toml.Scan
import LcdPanel.Toml.Seen
import LcdPanel.Url.Address
import LcdPanel.Url.Escape
import LcdPanel.Url.Parse
import LcdPanel.Wire.Record
import LcdPanel.Wire.Varint
