import Telemetry.Config.Key
import Telemetry.Node.Event
import Telemetry.State.NodeState
import Telemetry.Timer.Alarm

/-! What a node reports about itself, and the text of a report: level, message, then fields. -/
namespace Telemetry

inductive Level where
  | trace | debug | info | warn | error
  deriving DecidableEq, Repr

def Level.name : Level → String
  | trace => "TRACE"
  | debug => "DEBUG"
  | info => "INFO"
  | warn => "WARN"
  | error => "ERROR"

/-- Something worth reporting. -/
inductive Notice where
  | keyMissing (key : ConfigKey) (value : UInt16)
  | defaultNotWritten (key : ConfigKey) (error : StoreError)
  | nodeIdOutOfRange (value : UInt16)
  | percentOutOfRange (value : UInt16)
  | calibrationLoaded (thresholds : Reading)
  | calibrationStarted (epoch : UInt32)
  | calibrationFinished (maxima minima : Reading)
  | thresholdsUpdated (percent : UInt8) (thresholds : Reading)
  | itemNotSaved (key : ConfigKey) (error : StoreError)
  | engineRunning
  | engineStopped
  | packetDropped (counter : UInt32)
  | packetSkipped
  | sendFailed (reason link : String)
  | keepaliveDue (link : String)
  | keepaliveFailed (reason : String)
  | transmitRunning (link : String)
  | transmitStopped
  | firstInterrupt (counter : UInt64)
  | frameDropped (counter : UInt32)
  | timerPaused
  | timerNotPaused (error : TimerError)
  | interruptNotDisabled (error : TimerError)
  | nodeIdReloaded (previous current : UInt8)
  | stateDump (nodeId : UInt8) (flags : Flags) (percent : UInt8) (counter : UInt64)
  | statisticsDump (stats : Statistics)
  | deferredRunning
  | deferredStopped
  | eventTaken (event : DeferredEvent)
  | nodeStarting (nodeId percent : UInt8) (rateHz : UInt32) (periodTicks : UInt64) (link : String)
  | nodeStarted
  | nodeStopped
  | taskCrashed (task message : String)
  | nodeIdRequested (nodeId : UInt8)
  | calibrationStartRequested
  | calibrationStopRequested
  | pauseRequested
  | samplingResumed
  | networkChanged (enabled : Bool)
  deriving DecidableEq

namespace Notice

def level : Notice → Level
  | packetDropped _ | packetSkipped | frameDropped _ => .trace
  | firstInterrupt _ | eventTaken _ => .debug
  | defaultNotWritten _ _ | nodeIdOutOfRange _ | percentOutOfRange _ | sendFailed _ _
  | keepaliveFailed _ => .warn
  | itemNotSaved _ _ | timerNotPaused _ | interruptNotDisabled _ | taskCrashed _ _ => .error
  | _ => .info

def message : Notice → String
  | keyMissing _ _ => "Config key missing, writing default"
  | defaultNotWritten _ _ => "Failed to write default back"
  | nodeIdOutOfRange _ => "Stored node id out of range, using default"
  | percentOutOfRange _ => "Stored threshold percentage out of range, clamping"
  | calibrationLoaded _ => "Calibration loaded"
  | calibrationStarted _ => "Calibration started"
  | calibrationFinished _ _ => "Calibration finished"
  | thresholdsUpdated _ _ => "Thresholds updated"
  | itemNotSaved _ _ => "Failed to save calibration item"
  | engineRunning => "Calibration engine running"
  | engineStopped => "Calibration engine stopped"
  | packetDropped _ => "Transmit queue full, dropping packet"
  | packetSkipped => "Network not enabled, skipping packet"
  | sendFailed _ _ => "Packet send failed"
  | keepaliveDue _ => "Sending keep-alive"
  | keepaliveFailed _ => "Keep-alive send failed"
  | transmitRunning _ => "Transmit task running"
  | transmitStopped => "Transmit task stopped"
  | firstInterrupt _ => "First timer interrupt"
  | frameDropped _ => "Sample queue full, dropping frame"
  | timerPaused => "Sampling timer paused"
  | timerNotPaused _ => "Failed to pause sampling timer"
  | interruptNotDisabled _ => "Failed to disable timer interrupt"
  | nodeIdReloaded _ _ => "Node id reloaded"
  | stateDump _ _ _ _ => "Debug dump"
  | statisticsDump _ => "Debug dump statistics"
  | deferredRunning => "Deferred worker running"
  | deferredStopped => "Deferred worker stopped"
  | eventTaken _ => "Deferred event"
  | nodeStarting _ _ _ _ _ => "Starting node"
  | nodeStarted => "Node started"
  | nodeStopped => "Node stopped"
  | taskCrashed _ _ => "Task thread PANICKED"
  | nodeIdRequested _ => "Node id change requested"
  | calibrationStartRequested => "Calibration start requested"
  | calibrationStopRequested => "Calibration stop requested"
  | pauseRequested => "Sampling pause requested"
  | samplingResumed => "Sampling resumed"
  | networkChanged _ => "Network enabled changed"

/-- Values in brackets, one per channel. -/
def readingText (reading : Reading) : String :=
  "[" ++ ", ".intercalate (reading.toList.map toString) ++ "]"

/-- Named values of a report. Statistics carry the time given by `takenAt`. -/
def fields (takenAt : String) : Notice → List (String × String)
  | keyMissing key value => [("key", key.label), ("default", toString value)]
  | defaultNotWritten key error => [("key", key.label), ("error", error.message)]
  | nodeIdOutOfRange value => [("value", toString value)]
  | percentOutOfRange value => [("value", toString value)]
  | calibrationLoaded thresholds => [("threshold", readingText thresholds)]
  | calibrationStarted epoch => [("epoch", toString epoch)]
  | calibrationFinished maxima minima => [("max", readingText maxima), ("min", readingText minima)]
  | thresholdsUpdated percent thresholds =>
    [("percent", toString percent), ("threshold", readingText thresholds)]
  | itemNotSaved key error => [("key", key.label), ("error", error.message)]
  | packetDropped counter => [("counter", toString counter)]
  | sendFailed reason link => [("error", reason), ("link", link)]
  | keepaliveDue link => [("link", link)]
  | keepaliveFailed reason => [("error", reason)]
  | transmitRunning link => [("link", link)]
  | firstInterrupt counter => [("counter", toString counter)]
  | frameDropped counter => [("counter", toString counter)]
  | timerNotPaused error => [("error", error.message)]
  | interruptNotDisabled error => [("error", error.message)]
  | nodeIdReloaded previous current =>
    [("previous", toString previous), ("node_id", toString current)]
  | stateDump nodeId flags percent counter =>
    [("node_id", toString nodeId), ("flags", flags.display),
      ("threshold_percent", toString percent), ("timer_counter", toString counter)]
  | statisticsDump stats => [("stats", stats.report .compact takenAt)]
  | eventTaken event => [("event", event.name)]
  | nodeStarting nodeId percent rateHz periodTicks link =>
    [("node_id", toString nodeId), ("threshold_percent", toString percent),
      ("rate_hz", toString rateHz), ("period_ticks", toString periodTicks), ("link", link)]
  | taskCrashed task message => [("task", task), ("panic", message)]
  | nodeIdRequested nodeId => [("node_id", toString nodeId)]
  | networkChanged enabled => [("enabled", toString enabled)]
  | _ => []

/-- One line of a log. -/
def render (takenAt : String) (notice : Notice) : String :=
  " ".intercalate (notice.level.name :: notice.message ::
    (notice.fields takenAt).map fun (name, value) => name ++ "=" ++ value)

end Notice

end Telemetry
