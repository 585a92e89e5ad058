import Telemetry.Timer.Simulated

/-! The loop that makes a simulated timer fire. It follows the counter by the clock from an origin, and calls a
handler when the alarm is due. -/
namespace Telemetry

/-- When a driver began to follow the counter, and where the counter stood then. -/
structure Origin where
  since : Duration
  count : UInt64

/-- Where the counter has come to at a time of the clock. -/
def Origin.countAt (origin : Origin) (now : Duration) : Nat :=
  countAfter origin.count (.ofNanos (now.nanos - origin.since.nanos))

structure Driver where
  timer : SimulatedTimer
  /-- Missing as long as the timer is idle. -/
  origin : Option Origin := none

namespace Driver

/-- What the driver follows the counter from: where it began, or the present count. -/
def following (now : Duration) (driver : Driver) : Origin :=
  driver.origin.getD ⟨now, driver.timer.counter⟩

/-- One pass of the loop. It lets an idle timer be, waits for an alarm that is ahead, and calls the handler for an alarm
that is due. -/
def pass {Report : Type} (handler : SimulatedTimer → Report × SimulatedTimer) (now : Duration)
    (driver : Driver) : List Report × Driver :=
  if AlarmTimer.live driver.timer then
    let origin := driver.following now
    if origin.countAt now < driver.timer.alarm.toNat then ([], { driver with origin })
    else
      let (report, handled) := handler driver.timer.fire
      ([report], ⟨handled, origin⟩)
  else ([], { driver with origin := none })

end Driver

end Telemetry
