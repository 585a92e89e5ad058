import Telemetry.Files.Disk
import Telemetry.Json.Writer
import Telemetry.Settings.Basic

/-! Settings in a JSON file: an object in which fields may be missing, or an array of the first few
fields. Anything else counts as all defaults. -/
namespace Telemetry.Settings

/-- The fields by name. -/
inductive Field where
  | sampleRateHz | localPort | remoteIp | remotePort | storePath | sampleQueueCapacity
  | packetQueueCapacity | eventQueueCapacity | engineTimeoutMs | transmitTimeoutMs | keepaliveAfter
  deriving DecidableEq, Repr

namespace Field

/-- Every field, in the order of writing. -/
def all : List Field :=
  [sampleRateHz, localPort, remoteIp, remotePort, storePath, sampleQueueCapacity,
    packetQueueCapacity, eventQueueCapacity, engineTimeoutMs, transmitTimeoutMs, keepaliveAfter]

def name : Field → String
  | sampleRateHz => "sample_rate_hz"
  | localPort => "local_port"
  | remoteIp => "remote_ip"
  | remotePort => "remote_port"
  | storePath => "store_path"
  | sampleQueueCapacity => "sample_queue_capacity"
  | packetQueueCapacity => "packet_queue_capacity"
  | eventQueueCapacity => "event_queue_capacity"
  | engineTimeoutMs => "engine_timeout_ms"
  | transmitTimeoutMs => "transmit_timeout_ms"
  | keepaliveAfter => "keepalive_after"

def ofName? (name : String) : Option Field :=
  all.find? (·.name = name)

/-- What is written for a field. -/
def scalar (settings : Settings) : Field → Json.Scalar
  | sampleRateHz => .number settings.sampleRateHz.toNat
  | localPort => .number settings.localPort.toNat
  | remoteIp => .text settings.remoteIp
  | remotePort => .number settings.remotePort.toNat
  | storePath => .text settings.storePath
  | sampleQueueCapacity => .number settings.sampleQueueCapacity.toNat
  | packetQueueCapacity => .number settings.packetQueueCapacity.toNat
  | eventQueueCapacity => .number settings.eventQueueCapacity.toNat
  | engineTimeoutMs => .number settings.engineTimeoutMs.toNat
  | transmitTimeoutMs => .number settings.transmitTimeoutMs.toNat
  | keepaliveAfter => .number settings.keepaliveAfter.toNat

/-- Puts a value into a field; there is no result when it does not fit. -/
def put (settings : Settings) (value : Json.Value) : Field → Option Settings
  | sampleRateHz =>
    (value.natural? UInt32.size).map fun n => { settings with sampleRateHz := .ofNat n }
  | localPort => (value.natural? UInt16.size).map fun n => { settings with localPort := .ofNat n }
  | remoteIp => value.text?.map fun text => { settings with remoteIp := text }
  | remotePort => (value.natural? UInt16.size).map fun n => { settings with remotePort := .ofNat n }
  | storePath => value.text?.map fun text => { settings with storePath := text }
  | sampleQueueCapacity =>
    (value.natural? UInt64.size).map fun n => { settings with sampleQueueCapacity := .ofNat n }
  | packetQueueCapacity =>
    (value.natural? UInt64.size).map fun n => { settings with packetQueueCapacity := .ofNat n }
  | eventQueueCapacity =>
    (value.natural? UInt64.size).map fun n => { settings with eventQueueCapacity := .ofNat n }
  | engineTimeoutMs =>
    (value.natural? UInt64.size).map fun n => { settings with engineTimeoutMs := .ofNat n }
  | transmitTimeoutMs =>
    (value.natural? UInt64.size).map fun n => { settings with transmitTimeoutMs := .ofNat n }
  | keepaliveAfter =>
    (value.natural? UInt32.size).map fun n => { settings with keepaliveAfter := .ofNat n }

end Field

/-- Takes in the members of an object. A field may come once; unknown names are passed over. -/
def putMembers (seen : List Field) (settings : Settings) :
    List (Option String × Json.Value) → Option Settings
  | [] => some settings
  | (none, _) :: _ => none
  | (some name, value) :: rest =>
    match Field.ofName? name with
    | none => putMembers seen settings rest
    | some field =>
      if seen.contains field then none
      else (field.put settings value).bind fun settings => putMembers (field :: seen) settings rest

/-- Takes in the items of an array, field by field. -/
def putItems (settings : Settings) : List Field → List Json.Value → Option Settings
  | _, [] => some settings
  | [], _ :: _ => none
  | field :: fields, value :: values =>
    (field.put settings value).bind fun settings => putItems settings fields values

/-- The settings that a text gives. -/
def parse (text : String) : Option Settings :=
  match Json.parse text with
  | some (.object members) => putMembers [] {} members
  | some (.array items) => putItems {} Field.all items
  | _ => none

/-- Settings from a file; all defaults when it cannot be read or makes no sense. -/
def load (path : String) (disk : Disk) : Settings :=
  match disk.readText path with
  | .ok text => (parse text).getD {}
  | .error _ => {}

/-- The file's text: every field, one a line. -/
def render (settings : Settings) : String :=
  Json.writeObject .pretty (Field.all.map fun field => (field.name, field.scalar settings))

/-- Writes the settings to a file, making its directory first. -/
def save (settings : Settings) (path : String) (disk : Disk) : Except DiskError Unit × Disk :=
  disk.save path (.text settings.render)

end Telemetry.Settings
