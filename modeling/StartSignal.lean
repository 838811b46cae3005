import StartSignal.Text.Basic
import StartSignal.Text.Numeral
import StartSignal.Text.Utf8
import StartSignal.Text.Quoted
import StartSignal.Decimal.Shortest
import StartSignal.Decimal.Reading
import StartSignal.Files.Tree
import StartSignal.Json.Merge
import StartSignal.Json.Parser
import StartSignal.Json.Printer
import StartSignal.Duration
import StartSignal.Net.IoError
import StartSignal.Net.Address
import StartSignal.Net.HostName
import StartSignal.Net.Network
import StartSignal.Message
import StartSignal.Worker
import StartSignal.Wire.Reading
import StartSignal.Wire.Writing
import StartSignal.Wire.Pipe
import StartSignal.Log.Filter
import StartSignal.Log.Render
import StartSignal.Settings.Load
import StartSignal.Listener.Rehearsal
import StartSignal.Dispatch.Schedule
import StartSignal.Main
import StartSignal.Proofs.CommandLine.Values
import StartSignal.Proofs.Dispatch.Conservation
import StartSignal.Proofs.Dispatch.Independence
import StartSignal.Proofs.Dispatch.Interleaving
import StartSignal.Proofs.Dispatch.Journal
import StartSignal.Proofs.Dispatch.Limit
import StartSignal.Proofs.Dispatch.Tally
import StartSignal.Proofs.Interleaved
import StartSignal.Proofs.Json.Absorption
import StartSignal.Proofs.Json.Merge
import StartSignal.Proofs.Json.Nulls
import StartSignal.Proofs.Json.Path
import StartSignal.Proofs.Json.Printed
import StartSignal.Proofs.Listener.Cancellation
import StartSignal.Proofs.Listener.Ceiling
import StartSignal.Proofs.Listener.Counting
import StartSignal.Proofs.Listener.Language
import StartSignal.Proofs.Listener.Queue
import StartSignal.Proofs.Listener.Refinement
import StartSignal.Proofs.Listener.Script
import StartSignal.Proofs.Listener.Verdict
import StartSignal.Proofs.Log.FilterText
import StartSignal.Proofs.Net.Literal
import StartSignal.Proofs.Program.Configuration
import StartSignal.Proofs.Program.ExitStatus
import StartSignal.Proofs.Program.Silence
import StartSignal.Proofs.Settings.Defaults
import StartSignal.Proofs.Settings.File
import StartSignal.Proofs.Settings.Layers
import StartSignal.Proofs.Settings.LogLevels
import StartSignal.Proofs.Settings.Mending
import StartSignal.Proofs.Settings.Piecewise
import StartSignal.Proofs.Settings.Saved
import StartSignal.Proofs.Settings.Setting
import StartSignal.Proofs.Settings.Variables
import StartSignal.Proofs.Settings.Warnings
import StartSignal.Proofs.Text.Accumulation
import StartSignal.Proofs.Text.Lossy
import StartSignal.Proofs.Text.Trim
import StartSignal.Proofs.Text.Utf8
import StartSignal.Proofs.Wire.Chunk
import StartSignal.Proofs.Wire.Exchange
import StartSignal.Proofs.Wire.Sending
import StartSignal.Proofs.Wire.Slices
import StartSignal.Proofs.Wire.Stream
import StartSignal.Proofs.Worker.Host
import StartSignal.Proofs.Worker.HostIds
import StartSignal.Proofs.Settings.Value
import StartSignal.Proofs.Json.Record
import StartSignal.Proofs.Settings.Stated
import StartSignal.Proofs.Net.HostName
import StartSignal.Proofs.Dispatch.Target
