import Telemetry.Input.Analog

/-! An input that replays a list of readings. -/
namespace Telemetry

/-- The last reading of the script repeats; an empty script reads zeros. -/
structure ScriptedInput where
  script : List Reading
  /-- Reading taken last. -/
  current : Reading := Vector.replicate channelCount 0

namespace ScriptedInput

/-- Moves on to the next reading of the script. -/
def advance (input : ScriptedInput) : ScriptedInput :=
  match input.script with
  | [] => input
  | [last] => { input with current := last }
  | next :: later => { script := later, current := next }

instance : AnalogInput ScriptedInput where
  read input channel := (input.current[channel]?.getD 0, input)
  readAll input := (input.advance.current, input.advance)

end ScriptedInput

end Telemetry
