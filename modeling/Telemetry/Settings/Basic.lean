import Telemetry.Net.AddressReader
import Telemetry.Node.Start

/-! Host settings: rates, addresses, queue sizes and timeouts, and what makes them fit for use. -/
namespace Telemetry

structure Settings where
  sampleRateHz : UInt32 := defaultSampleRateHz
  localPort : UInt16 := defaultLocalPort
  remoteIp : String := defaultRemoteIp
  remotePort : UInt16 := defaultRemotePort
  /-- File of the configuration store. -/
  storePath : String := "sensornode-store.json"
  sampleQueueCapacity : UInt64 := 10
  packetQueueCapacity : UInt64 := 10
  eventQueueCapacity : UInt64 := 10
  engineTimeoutMs : UInt64 := 2000
  transmitTimeoutMs : UInt64 := 5000
  /-- Transmit timeouts before a keep-alive. -/
  keepaliveAfter : UInt32 := 24
  deriving DecidableEq, Repr

inductive SettingsError where
  | invalidSampleRate (rateHz : UInt32)
  /-- A field that must not be zero is. -/
  | zero (field : String)
  | invalidRemote (text : String)
  deriving DecidableEq, Repr

def SettingsError.message : SettingsError → String
  | invalidSampleRate rateHz => s!"Sample rate must be 1-1000 Hz, got {rateHz}"
  | zero field => field ++ " must be non-zero"
  | invalidRemote text => "Invalid remote address '" ++ text ++ "'"

namespace Settings

/-- Highest rate that a host is trusted with. -/
def maxSampleRateHz : UInt32 := 1000

/-- Where packets go. -/
def remoteAddress (settings : Settings) : Except SettingsError SocketAddress :=
  match IpAddress.parse settings.remoteIp with
  | some ip => .ok (.new ip settings.remotePort)
  | none => .error (.invalidRemote settings.remoteIp)

/-- Every interface of the host, on the configured port. -/
def localAddress (settings : Settings) : SocketAddress :=
  .v4 .unspecified settings.localPort

/-- Sets the remote from a text: an address with a port, or an address alone, which keeps the port. -/
def setRemote (settings : Settings) (text : String) : Except SettingsError Settings :=
  match SocketAddress.parse text with
  | some address => .ok { settings with remoteIp := address.ip.render, remotePort := address.port }
  | none =>
    match IpAddress.parse text with
    | some ip => .ok { settings with remoteIp := ip.render }
    | none => .error (.invalidRemote text)

/-- Fields that must not be zero, in the order in which they are looked at. -/
def nonZeroFields (settings : Settings) : List (String × Nat) :=
  [("sample_queue_capacity", settings.sampleQueueCapacity.toNat),
    ("packet_queue_capacity", settings.packetQueueCapacity.toNat),
    ("event_queue_capacity", settings.eventQueueCapacity.toNat),
    ("engine_timeout_ms", settings.engineTimeoutMs.toNat),
    ("transmit_timeout_ms", settings.transmitTimeoutMs.toNat),
    ("keepalive_after", settings.keepaliveAfter.toNat)]

/-- Checks the rate, then the fields that must not be zero, then the remote. -/
def validate (settings : Settings) : Except SettingsError Unit :=
  if settings.sampleRateHz = 0 || maxSampleRateHz < settings.sampleRateHz then
    .error (.invalidSampleRate settings.sampleRateHz)
  else
    match settings.nonZeroFields.find? (·.2 = 0) with
    | some (field, _) => .error (.zero field)
    | none => settings.remoteAddress.map fun _ => ()

/-- What a node is started with. -/
def nodeConfig (settings : Settings) : NodeConfig where
  sampleRateHz := settings.sampleRateHz
  sampleQueueCapacity := settings.sampleQueueCapacity.toNat
  packetQueueCapacity := settings.packetQueueCapacity.toNat
  eventQueueCapacity := settings.eventQueueCapacity.toNat
  engineTimeout := .ofMillis settings.engineTimeoutMs
  transmitTimeout := .ofMillis settings.transmitTimeoutMs
  keepaliveAfter := settings.keepaliveAfter

end Settings

end Telemetry
