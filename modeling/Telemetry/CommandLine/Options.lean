import Telemetry.Text.Decimal

/-! Options of the command line. The words fall into groups, left to right: an option that stands
alone, or one with the word that follows it. The last group that names an option counts. -/
namespace Telemetry.CommandLine

/-- What a group asks for. -/
inductive Request where
  | settings (path : String)
  | nodeId (id : UInt8)
  | rate (hertz : UInt32)
  | remote (address : String)
  | calibrate (seconds : UInt64)
  | raw
  | threshold (percent : UInt8)
  | saveSettings
  deriving DecidableEq, Repr

/-- An option that takes a value. -/
inductive ValuedOption where
  | settings | nodeId | rate | remote | calibrate | threshold
  deriving DecidableEq, Repr

namespace ValuedOption

def name : ValuedOption → String
  | settings => "--settings"
  | nodeId => "--node-id"
  | rate => "--rate"
  | remote => "--remote"
  | calibrate => "--calibrate"
  | threshold => "--threshold"

/-- What has to follow the option. -/
def need : ValuedOption → String
  | settings => "a path"
  | nodeId => "a value 0-255"
  | rate => "a sample rate in Hz"
  | remote => "IP or IP:PORT"
  | calibrate => "a duration in seconds"
  | threshold => "a percentage 0-100"

/-- The request that an option makes with a value. -/
def read (value : String) : ValuedOption → Option Request
  | settings => some (.settings value)
  | nodeId => (Text.boundedNat? UInt8.size value.toList).map fun n => .nodeId (.ofNat n)
  | rate => (Text.boundedNat? UInt32.size value.toList).map fun n => .rate (.ofNat n)
  | remote => some (.remote value)
  | calibrate => (Text.boundedNat? UInt64.size value.toList).map fun n => .calibrate (.ofNat n)
  | threshold => (Text.boundedNat? 101 value.toList).map fun n => .threshold (.ofNat n)

end ValuedOption

/-- A word at the head of a group. -/
inductive Word where
  | version
  | help
  | single (request : Request)
  | valued (option : ValuedOption)
  deriving DecidableEq, Repr

def Word.ofText? : String → Option Word
  | "--version" | "-v" => some .version
  | "--help" | "-h" => some .help
  | "--raw" => some (.single .raw)
  | "--save-settings" => some (.single .saveSettings)
  | "--settings" | "-s" => some (.valued .settings)
  | "--node-id" | "-n" => some (.valued .nodeId)
  | "--rate" | "-r" => some (.valued .rate)
  | "--remote" => some (.valued .remote)
  | "--calibrate" | "-c" => some (.valued .calibrate)
  | "--threshold" | "-t" => some (.valued .threshold)
  | _ => none

/-- Why a command ends before it has begun. -/
inductive Halt where
  | version
  | help
  /-- The value is missing or does not fit. -/
  | valueNeeded (option : ValuedOption)
  | unknownWord (word : String)
  deriving DecidableEq, Repr

/-- Splits words into groups; the first group that is none ends the reading. -/
def requests : List String → Except Halt (List Request)
  | [] => .ok []
  | word :: rest =>
    match Word.ofText? word with
    | none => .error (.unknownWord word)
    | some .version => .error .version
    | some .help => .error .help
    | some (.single request) => (requests rest).map (request :: ·)
    | some (.valued option) =>
      match rest with
      | [] => .error (.valueNeeded option)
      | value :: more =>
        match option.read value with
        | none => .error (.valueNeeded option)
        | some request => (requests more).map (request :: ·)

structure Options where
  settingsPath : Option String := none
  nodeId : Option UInt8 := none
  sampleRateHz : Option UInt32 := none
  remote : Option String := none
  /-- Length of a calibration right after the start. -/
  calibrateSeconds : Option UInt64 := none
  raw : Bool := false
  threshold : Option UInt8 := none
  saveSettings : Bool := false
  deriving DecidableEq, Repr

namespace Options

def apply (options : Options) : Request → Options
  | .settings path => { options with settingsPath := path }
  | .nodeId id => { options with nodeId := id }
  | .rate hertz => { options with sampleRateHz := hertz }
  | .remote address => { options with remote := address }
  | .calibrate seconds => { options with calibrateSeconds := seconds }
  | .raw => { options with raw := true }
  | .threshold percent => { options with threshold := percent }
  | .saveSettings => { options with saveSettings := true }

/-- The options that some words give. -/
def parse (words : List String) : Except Halt Options :=
  (requests words).map (·.foldl apply {})

end Options

end Telemetry.CommandLine
