import Telemetry.CommandLine.Console
import Telemetry.CommandLine.Options
import Telemetry.Settings.Basic

/-! Texts of the command line that need no node: version, help, complaints about words. -/
namespace Telemetry.CommandLine

/-- Settings file unless another is given. -/
def defaultSettingsPath : String := "sensornode.json"

def versionLine (buildDate : String) : String :=
  "sensornode " ++ version ++ " (built " ++ buildDate ++ ")"

def banner (buildDate : String) : List String :=
  let bar := String.ofList (List.replicate 60 '═')
  ["╔" ++ bar ++ "╗",
    "║      Sensornode v" ++ version ++ " (" ++ buildDate ++ ") - Telemetry Node       ║",
    "╚" ++ bar ++ "╝", ""]

def help : List String :=
  ["Usage: sensornode [OPTIONS]",
    "",
    "Options:",
    "  -s, --settings PATH     Settings file (default: " ++ defaultSettingsPath ++ ")",
    "  -n, --node-id N         Store a new node id before starting",
    "  -r, --rate HZ           Sample rate (default: 60)",
    "      --remote ADDR       Primary remote, IP or IP:PORT",
    "  -c, --calibrate SECS    Run a calibration for SECS seconds after start",
    "      --raw               Send raw filtered samples instead of bitmasks",
    "  -t, --threshold PCT     Threshold percentage 0-100",
    "      --save-settings     Write the effective settings back to the file",
    "  -v, --version           Show version",
    "  -h, --help              Show this help",
    "",
    "Examples:",
    "  sensornode --remote 127.0.0.1:16501 --calibrate 10",
    "  sensornode -r 120 --raw",
    "",
    "Set RUST_LOG=sensornode=debug for more detail."]

namespace Halt

def output (buildDate : String) : Halt → List String
  | version => [versionLine buildDate]
  | help | unknownWord _ => CommandLine.help
  | valueNeeded _ => []

def errors : Halt → List String
  | valueNeeded option => ["Error: " ++ option.name ++ " requires " ++ option.need]
  | unknownWord word => ["Unknown argument: " ++ word]
  | version | help => []

/-- Writes what there is to say. -/
def tell (halt : Halt) : StateM Host Unit :=
  modify fun host => { host with
    output := host.output ++ halt.output host.buildDate
    errors := host.errors ++ halt.errors }

end Halt

end Telemetry.CommandLine
