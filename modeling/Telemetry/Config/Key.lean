import Telemetry.Basic

/-! Keys of the configuration store, their labels and ranges, and the store's errors. -/
namespace Telemetry

/-- What a configuration value is for. -/
inductive ConfigKey where
  | nodeId
  | thresholdPercent
  | calibrationMax (channel : Nat)
  | calibrationMin (channel : Nat)
  | threshold (channel : Nat)
  deriving DecidableEq, Repr

/-- Why a store refused. -/
inductive StoreError where
  /-- The operating system refused; the text is its own. -/
  | io (reason : String)
  | notJson (reason : String)
  | outOfRange (label : String) (value maximum : UInt16)
  | readOnly
  deriving DecidableEq, Repr

def StoreError.message : StoreError → String
  | .io reason => "Store I/O failed: " ++ reason
  | .notJson reason => "Store file is not valid JSON: " ++ reason
  | .outOfRange label value maximum => s!"Value {value} out of range for '{label}' (max {maximum})"
  | .readOnly => "Store is read-only"

namespace ConfigKey

/-- Name under which the value is stored. -/
def label : ConfigKey → String
  | nodeId => "nodeid"
  | thresholdPercent => "threshold"
  | calibrationMax channel => "max" ++ channel.repr
  | calibrationMin channel => "min" ++ channel.repr
  | threshold channel => "thresh" ++ channel.repr

/-- Largest value that fits. -/
def maximum : ConfigKey → UInt16
  | nodeId => 255
  | thresholdPercent => 100
  | _ => 65535

def check (key : ConfigKey) (value : UInt16) : Except StoreError Unit :=
  if value ≤ key.maximum then .ok () else .error (.outOfRange key.label value key.maximum)

/-- The keys a node uses. -/
def ofNode : List ConfigKey :=
  [nodeId, thresholdPercent] ++ (List.range channelCount).flatMap fun channel =>
    [calibrationMax channel, calibrationMin channel, threshold channel]

end ConfigKey

end Telemetry
