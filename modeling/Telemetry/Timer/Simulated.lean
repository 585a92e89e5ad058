import Telemetry.Timer.Alarm

/-! A timer that fires by itself: each fire moves the counter to the alarm and runs a handler. -/
namespace Telemetry

structure SimulatedTimer where
  counter : UInt64 := 0
  alarm : UInt64 := 0
  armed : Bool := false
  counting : Bool := false
  interruptEnabled : Bool := false
  /-- A fire has not been acknowledged. -/
  pending : Bool := false
  /-- Handler calls so far. -/
  fires : UInt64 := 0
  deriving DecidableEq, Repr

/-- Where a counter stands after running for so long. It stops at the largest word. -/
def countAfter (count : UInt64) (elapsed : Duration) : Nat :=
  min (count.toNat + (ticksIn elapsed).toNat) wordMax

namespace SimulatedTimer

instance : AlarmTimer SimulatedTimer where
  clearInterrupt timer := { timer with pending := false }
  counter timer := timer.counter
  setAlarm ticks timer := { timer with alarm := ticks }
  enableAlarm timer := { timer with armed := true }
  pause timer := .ok { timer with counting := false }
  start timer := .ok { timer with counting := true }
  enableInterrupt timer := .ok { timer with interruptEnabled := true }
  disableInterrupt timer := .ok { timer with interruptEnabled := false }
  attach timer := .ok timer
  isCounting timer := timer.counting
  isInterruptEnabled timer := timer.interruptEnabled
  isArmed timer := timer.armed

/-- The state in which the handler is called: counter at the alarm, alarm disarmed, fire pending. -/
def fire (timer : SimulatedTimer) : SimulatedTimer :=
  { timer with counter := timer.alarm, armed := false, pending := true, fires := timer.fires + 1 }

/-- Time still to wait for the alarm after running for `elapsed` from the present count. -/
def waiting (timer : SimulatedTimer) (elapsed : Duration) : Duration :=
  durationOf (.ofNat (timer.alarm.toNat - countAfter timer.counter elapsed))

/-- Calls the handler at most so many times, as long as the timer stays live, and collects what the
handler reports. -/
def drive {Report : Type} (handler : SimulatedTimer → Report × SimulatedTimer) :
    Nat → SimulatedTimer → List Report × SimulatedTimer
  | 0, timer => ([], timer)
  | calls + 1, timer =>
    if AlarmTimer.live timer then
      let (report, handled) := handler timer.fire
      let (reports, last) := drive handler calls handled
      (report :: reports, last)
    else ([], timer)

end SimulatedTimer

end Telemetry
