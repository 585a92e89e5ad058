import Telemetry.Files.Disk
import Telemetry.Net.Udp
import Telemetry.Text.Decimal

/-! The host that a command runs on, what the command writes to it, and how it fails. -/
namespace Telemetry.CommandLine

structure Host where
  disk : Disk := {}
  network : Network := {}
  /-- When the program was built. -/
  buildDate : String
  /-- Seed for the noise on the analog input. -/
  seed : UInt32 := 0
  /-- Lines on the standard output. -/
  output : List String := []
  /-- Lines on the standard error stream. -/
  errors : List String := []
  deriving DecidableEq, Repr

inductive Failure where
  /-- What could not be done, and what lies behind it, nearest first. -/
  | because (message : String) (causes : List String)
  /-- A point in time lies beyond what the clock can show. -/
  | pastClock
  deriving DecidableEq, Repr

namespace Failure

/-- A cause behind a lead; its later lines are set in as far as the lead. -/
def setIn (lead cause : String) : String :=
  lead ++ ("\n" ++ Text.padLeft lead.length ' ' "").intercalate (cause.splitOn "\n")

/-- Several causes are numbered. -/
def causeLines : List String → List String
  | [] => []
  | [cause] => ["", "Caused by:", setIn "    " cause]
  | causes => "" :: "Caused by:" ::
    causes.mapIdx fun n cause => setIn (Text.padLeft 5 ' ' n.repr ++ ": ") cause

def report : Failure → List String
  | because message causes => ("Error: " ++ message) :: causeLines causes
  | pastClock => ["overflow when adding duration to instant"]

def exitCode : Failure → UInt8
  | because _ _ => 1
  | pastClock => 101

end Failure

/-- Work on a host that may fail; what was done before a failure stays. -/
abbrev Command (α : Type) := ExceptT Failure (StateM Host) α

/-- Writes a line to the standard output. -/
def say (line : String) : Command Unit :=
  modify fun host => { host with output := host.output ++ [line] }

def keepDisk (disk : Disk) : Command Unit :=
  modify fun host => { host with disk }

/-- Goes on with a result, or fails for the reason it gives. -/
def attempt {ε α : Type} (result : Except ε α) (failure : ε → Failure) : Command α :=
  match result with
  | .ok value => pure value
  | .error error => throw (failure error)

end Telemetry.CommandLine
