import Telemetry.CommandLine.Session
import Telemetry.Config.File
import Telemetry.Config.Memory
import Telemetry.Input.Scripted
import Telemetry.Input.Waveform
import Telemetry.Json.Value
import Telemetry.Main
import Telemetry.Net.Udp
import Telemetry.Node.Bench
import Telemetry.Node.Start
import Telemetry.Settings.File
import Telemetry.Timer.Simulated
import Telemetry.Proofs.Node.Sampling
import Telemetry.Proofs.Wire.Codec
import Telemetry.Proofs.Wire.Remainder
import Telemetry.Proofs.Wire.Corruption
import Telemetry.Proofs.Wire.Polynomial
import Telemetry.Proofs.Wire.Bursts
import Telemetry.Proofs.Filter.Channels
import Telemetry.Proofs.Filter.Sorting
import Telemetry.Proofs.Filter.Recursion
import Telemetry.Proofs.Node.Processing
import Telemetry.Proofs.Node.Tasks
import Telemetry.Proofs.Pipeline.Run
import Telemetry.Proofs.Pipeline.Delivery
import Telemetry.Proofs.Timer.Dependable
import Telemetry.Proofs.Control.Run
import Telemetry.Proofs.Control.Pausing
import Telemetry.Proofs.Session.Run
import Telemetry.Proofs.Session.Gathering
import Telemetry.Proofs.Session.Extremes
import Telemetry.Proofs.Session.Thresholds
import Telemetry.Proofs.Entries
import Telemetry.Proofs.Config.Lawful
import Telemetry.Proofs.Config.Labels
import Telemetry.Proofs.Config.Saved
import Telemetry.Proofs.Config.Loaded
import Telemetry.Proofs.Session.Restart
import Telemetry.Proofs.Pipeline.Tally
import Telemetry.Proofs.Pipeline.Balance
import Telemetry.Proofs.Control.Reload
import Telemetry.Proofs.Json.RoundTrip
import Telemetry.Proofs.Config.Rendered
import Telemetry.Proofs.Files.Disk
import Telemetry.Proofs.Config.Reopened
import Telemetry.Proofs.Session.Failures
import Telemetry.Proofs.Control.Shutdown
import Telemetry.Proofs.Files.Saving
import Telemetry.Proofs.Config.Writing
import Telemetry.Proofs.Config.Interchange
import Telemetry.Proofs.Config.Completion
import Telemetry.Proofs.Net.RoundTrip
import Telemetry.Proofs.Settings.Remote
import Telemetry.Proofs.Records
import Telemetry.Proofs.Checked
import Telemetry.Proofs.Time.Conversion
import Telemetry.Proofs.Filter.Spikes
import Telemetry.Proofs.Filter.Monotone
import Telemetry.Proofs.Calibration.Thresholds
import Telemetry.Proofs.Calibration.ClosedForm
import Telemetry.Proofs.Timer.Driver
import Telemetry.Proofs.Timer.Train
import Telemetry.Proofs.Node.KeepAlive
import Telemetry.Proofs.Node.Requests
import Telemetry.Proofs.CommandLine.Grammar
import Telemetry.Proofs.Filter.Cursors
import Telemetry.Proofs.Settings.Fields
