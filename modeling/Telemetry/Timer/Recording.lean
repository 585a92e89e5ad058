import Telemetry.Timer.Alarm

/-! A timer that keeps a record of what was asked of it and fires only on request. -/
namespace Telemetry

/-- Operations that are made to fail. -/
structure TimerFaults where
  pause : Bool := false
  start : Bool := false
  enableInterrupt : Bool := false
  disableInterrupt : Bool := false
  attach : Bool := false
  deriving DecidableEq, Repr

/-- The counter stands still unless it is set. -/
structure RecordingTimer where
  counter : UInt64 := 0
  /-- Every alarm value written, oldest first. -/
  alarms : List UInt64 := []
  armed : Bool := false
  counting : Bool := false
  interruptEnabled : Bool := false
  /-- Interrupts acknowledged. -/
  cleared : Nat := 0
  /-- Fires requested and not yet delivered. -/
  pending : Nat := 0
  faults : TimerFaults := {}
  deriving DecidableEq, Repr

namespace RecordingTimer

/-- Reason given for every failure. -/
def failureReason : String := "injected failure"

private def guarded (fails : Bool) (operation : TimerOperation) (done : RecordingTimer) :
    Except TimerError RecordingTimer :=
  if fails then .error (.hardware operation failureReason) else .ok done

/-- An acknowledged alarm is disarmed. -/
instance : AlarmTimer RecordingTimer where
  clearInterrupt timer := { timer with cleared := timer.cleared + 1, armed := false }
  counter timer := timer.counter
  setAlarm ticks timer := { timer with alarms := timer.alarms ++ [ticks] }
  enableAlarm timer := { timer with armed := true }
  pause timer := guarded timer.faults.pause .pause { timer with counting := false }
  start timer := guarded timer.faults.start .start { timer with counting := true }
  enableInterrupt timer :=
    guarded timer.faults.enableInterrupt .enableInterrupt { timer with interruptEnabled := true }
  disableInterrupt timer :=
    guarded timer.faults.disableInterrupt .disableInterrupt { timer with interruptEnabled := false }
  attach timer := if timer.faults.attach then .error failureReason else .ok timer
  isCounting timer := timer.counting
  isInterruptEnabled timer := timer.interruptEnabled
  isArmed timer := timer.armed

/-- Asks for one more fire. -/
def request (timer : RecordingTimer) : RecordingTimer :=
  { timer with pending := timer.pending + 1 }

/-- Hands out one requested fire, if the timer is live. -/
def deliver? (timer : RecordingTimer) : Option RecordingTimer :=
  if AlarmTimer.live timer && 0 < timer.pending then some { timer with pending := timer.pending - 1 }
  else none

end RecordingTimer

end Telemetry
