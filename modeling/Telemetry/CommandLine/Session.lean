import Telemetry.CommandLine.Help
import Telemetry.Config.File
import Telemetry.Input.Waveform
import Telemetry.Node.Control
import Telemetry.Settings.File
import Telemetry.Text.Fixed
import Telemetry.Timer.Simulated

/-! A node run from the command line: preparation in a fixed order, a status line, and the end. -/
namespace Telemetry.CommandLine

abbrev SessionNode := Node SimulatedTimer WaveformInput FileStore

/-! Preparation: every step may fail, and leaves what the steps before it did. -/

def fromSettings (error : SettingsError) : Failure :=
  .because error.message []

/-- A store's complaint, and the reason behind it if there is one. -/
def fromStore (message : String) (error : StoreError) : Failure :=
  match error with
  | .io reason | .notJson reason => .because message [error.message, reason]
  | .outOfRange _ _ _ | .readOnly => .because message [error.message]

/-- Settings from the file with the options put over them. -/
def effectiveSettings (options : Options) (loaded : Settings) : Except SettingsError Settings :=
  let rated := { loaded with sampleRateHz := options.sampleRateHz.getD loaded.sampleRateHz }
  match options.remote with
  | some text => rated.setRemote text
  | none => .ok rated

/-- Loads and checks the settings, and writes them back if that is asked for. -/
def prepareSettings (options : Options) : Command Settings := do
  let path := options.settingsPath.getD defaultSettingsPath
  let disk := (← get).disk
  let settings ← attempt (effectiveSettings options (.load path disk)) fromSettings
  attempt settings.validate fun error => .because "Invalid settings" [error.message]
  if options.saveSettings then
    let (saved, disk) := settings.save path disk
    keepDisk disk
    attempt saved fun error => .because error.message []
  return settings

/-- Opens the configuration store and puts in the node id, if one is given. -/
def prepareStore (path : String) (nodeId : Option UInt8) : Command FileStore := do
  let store ← attempt (FileStore.load path (← get).disk) (fromStore ("Failed to open store " ++ path))
  match nodeId with
  | none => return store
  | some id =>
    let (stored, store) := store.set .nodeId id.toUInt16
    keepDisk store.disk
    attempt stored (fromStore "Failed to store node id")
    return store

def prepareLink (settings : Settings) : Command (SocketAddress × Link) := do
  let remote ← attempt settings.remoteAddress fromSettings
  let link ← attempt ((← get).network.bindLink settings.localPort remote) fun error =>
    .because ("Failed to bind UDP port " ++ settings.localPort.toNat.repr) [error.message]
  return (remote, link)

/-- A running node, what was asked of it and what it was started with. -/
structure Session where
  options : Options
  settings : Settings
  remote : SocketAddress
  node : SessionNode
  /-- The calibration window is open. -/
  calibrating : Bool

namespace Session

def startNode (settings : Settings) (link : Link) (store : FileStore) : Command SessionNode := do
  let input := WaveformInput.new settings.sampleRateHz (← get).seed
  match (Node.start settings.nodeConfig ({} : SimulatedTimer) input link store).value with
  | .error failed =>
    keepDisk failed.store.disk
    throw (.because failed.error.context [failed.error.cause])
  | .ok node =>
    keepDisk node.store.disk
    return node

/-- Puts percentage and raw mode into force. -/
def adjust (options : Options) (node : SessionNode) : Command SessionNode := do
  match options.threshold with
  | none => return node.setRawMode options.raw
  | some percent =>
    let (changed, node) := node.setThresholdPercent percent
    if let .error error := changed then
      say ("ERROR sensornode: Failed to set threshold: " ++ error.message)
    return node.setRawMode options.raw

/-- Seconds that the clock counts up to: a signed 64-bit number. -/
def clockLimit : Nat := UInt64.size / 2

/-- Opens the calibration window, if there is to be one. -/
def openWindow (session : Session) : Command Session := do
  match session.options.calibrateSeconds with
  | none => return session
  | some seconds =>
    say ("INFO sensornode: Calibrating secs=" ++ seconds.toNat.repr)
    if clockLimit ≤ seconds.toNat then throw .pastClock
    return { session with node := session.node.startCalibration.value, calibrating := true }

/-- From the options to a running node. -/
def start (options : Options) : Command Session := do
  let settings ← prepareSettings options
  let store ← prepareStore settings.storePath options.nodeId
  let (remote, link) ← prepareLink settings
  say ("Sample rate: " ++ settings.sampleRateHz.toNat.repr ++ " Hz")
  say ("Remote:      " ++ remote.render)
  say ("Store:       " ++ settings.storePath)
  say ""
  let node ← adjust options (← startNode settings link store)
  let session ← openWindow ⟨options, settings, remote, node, false⟩
  say ("Node " ++ session.node.state.nodeId.toNat.repr ++ " running. Press Ctrl+C to stop.")
  say ""
  say "Status:"
  say (String.ofList (List.replicate 40 '─'))
  return session

/-- Closes the calibration window once the session has run for its length. -/
def closeWindow (ran : Duration) (session : Session) : Command Session := do
  match session.options.calibrateSeconds with
  | some seconds =>
    if session.calibrating && seconds.toNat ≤ ran.seconds then
      say "INFO sensornode: Calibration window closed"
      return { session with node := session.node.stopCalibration.value, calibrating := false }
    else return session
  | none => return session

def modeName (session : Session) : String :=
  if session.options.raw then "RAW" else if session.calibrating then "CAL" else "THRESH"

/-- One line on how the node is doing. -/
def statusLine (session : Session) : String :=
  let state := session.node.state
  let stats := state.stats
  let column (width : Nat) (text : String) : String := Text.padLeft width ' ' text
  "Node: " ++ column 3 state.nodeId.toNat.repr ++
    " | Mode: " ++ Text.padRight 6 session.modeName ++
    " | Samples: " ++ column 8 stats.samplesCaptured.toNat.repr ++
    " | Dropped: " ++ column 5 stats.samplesDropped.toNat.repr ++
    " (" ++ column 4 (Text.oneDecimal stats.dropPercent) ++ "%)" ++
    " | Sent: " ++ column 8 stats.packetsSent.toNat.repr ++
    " | Failed: " ++ column 4 stats.sendFailures.toNat.repr

/-- Stops the node and reports its statistics. -/
def finish (takenAt : String) (session : Session) : Command Unit := do
  say ""
  say "Stopping..."
  let node := session.node.stop.value
  keepDisk node.store.disk
  say (node.state.stats.report .pretty takenAt)
  say "Done."

/-- A session that is told to stop when its first status is out. -/
def brief (takenAt : String) (options : Options) : Command Unit := do
  let session ← start options
  let session ← session.closeWindow (.ofNanos 0)
  say session.statusLine
  session.finish takenAt

end Session

/-- Reports a failure and gives the exit code. -/
def conclude {α : Type} : Except Failure α → StateM Host UInt8
  | .ok _ => pure 0
  | .error failure => do
    modify fun host => { host with errors := host.errors ++ failure.report }
    pure failure.exitCode

/-- From the words of a command line to the exit code, with a session in between. -/
def run (session : Options → Command Unit) (words : List String) : StateM Host UInt8 := do
  match Options.parse words with
  | .error halt =>
    halt.tell
    return 0
  | .ok options =>
    modify fun host => { host with output := host.output ++ banner host.buildDate }
    conclude (← (session options).run)

end Telemetry.CommandLine
