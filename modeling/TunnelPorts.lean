import TunnelPorts.Assoc
import TunnelPorts.Cli.Arguments
import TunnelPorts.Cli.Run
import TunnelPorts.Config.Decode
import TunnelPorts.Config.Environment
import TunnelPorts.Config.EnvironmentValue
import TunnelPorts.Config.Error
import TunnelPorts.Config.Load
import TunnelPorts.Config.Source
import TunnelPorts.Config.Value
import TunnelPorts.Document
import TunnelPorts.Entries
import TunnelPorts.Error
import TunnelPorts.Extract
import TunnelPorts.FileSystem
import TunnelPorts.Json.Error
import TunnelPorts.Json.Level
import TunnelPorts.Json.Number
import TunnelPorts.Json.Reader
import TunnelPorts.Json.Skip
import TunnelPorts.Json.Text
import TunnelPorts.Key
import TunnelPorts.Log
import TunnelPorts.Log.Directive
import TunnelPorts.Log.Filter
import TunnelPorts.Log.Pattern
import TunnelPorts.Log.Pattern.Atom
import TunnelPorts.Log.Pattern.Options
import TunnelPorts.Log.Pattern.Row
import TunnelPorts.Log.Pattern.Set
import TunnelPorts.Log.Subject
import TunnelPorts.Main
import TunnelPorts.Number.Binary64
import TunnelPorts.Output
import TunnelPorts.Path
import TunnelPorts.PortSet
import TunnelPorts.Proofs.Walk
import TunnelPorts.Run
import TunnelPorts.Sink
import TunnelPorts.Sink.LineBuffer
import TunnelPorts.Text.Alphanumeric
import TunnelPorts.Text.Blank
import TunnelPorts.Text.Digit
import TunnelPorts.Text.Escape
import TunnelPorts.Text.Invisible
import TunnelPorts.Text.Quoted
import TunnelPorts.Text.Ranges
import TunnelPorts.Text.Scan
import TunnelPorts.Text.Slice
import TunnelPorts.Text.Split
import TunnelPorts.Text.Utf8
import TunnelPorts.Toml.Document
import TunnelPorts.Toml.Moment
import TunnelPorts.Toml.Number
import TunnelPorts.Toml.Text
import TunnelPorts.Toml.Value
import TunnelPorts.Walk
import TunnelPorts.Proofs.Failing
import TunnelPorts.Proofs.Output
import TunnelPorts.Proofs.Key
import TunnelPorts.Proofs.PortSet
import TunnelPorts.Proofs.Script
import TunnelPorts.Proofs.Extract
import TunnelPorts.Proofs.Number.Nearest
import TunnelPorts.Proofs.Json.Grammar
import TunnelPorts.Proofs.Json.Measure
import TunnelPorts.Proofs.Json.Text
import TunnelPorts.Proofs.Json.Skip
import TunnelPorts.Proofs.Entries
import TunnelPorts.Proofs.Json.Level
import TunnelPorts.Proofs.Json.Document
import TunnelPorts.Proofs.Json.Prefix
import TunnelPorts.Proofs.Json.Indifference
import TunnelPorts.Proofs.Json.Ending
import TunnelPorts.Proofs.Json.Truncation
import TunnelPorts.Proofs.Assoc
import TunnelPorts.Proofs.Config.Merge
import TunnelPorts.Proofs.Config.EnvironmentValue
import TunnelPorts.Proofs.Config.Environment
import TunnelPorts.Proofs.Toml.Distinct
import TunnelPorts.Proofs.Config.Decode
import TunnelPorts.Proofs.Config.FileLayer
import TunnelPorts.Proofs.Config.Layering
import TunnelPorts.Proofs.Toml.Text
import TunnelPorts.Proofs.Toml.Fields
import TunnelPorts.Proofs.Config.Stated
import TunnelPorts.Proofs.FileSystem
import TunnelPorts.Proofs.LineBuffer
import TunnelPorts.Proofs.Run
import TunnelPorts.Proofs.Path
import TunnelPorts.Proofs.Delivery
import TunnelPorts.Proofs.Cli.Source
import TunnelPorts.Proofs.Notes
import TunnelPorts.Proofs.Cli.Run
import TunnelPorts.Proofs.Calls
import TunnelPorts.Proofs.Rearranged
import TunnelPorts.Proofs.Decoding
import TunnelPorts.Proofs.Json.Duplicates
import TunnelPorts.Proofs.Config.Kind
import TunnelPorts.Proofs.Config.Verbatim
import TunnelPorts.Proofs.Config.Seen
import TunnelPorts.Proofs.Config.Reordered
