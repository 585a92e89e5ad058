import Telemetry.Time.Duration

/-! The alarm timer a node is driven by: a free-running counter with one alarm that disarms itself, and
the schedule by which the alarm is written. -/
namespace Telemetry

/-- Control operations of a timer that can fail. -/
inductive TimerOperation where
  | pause | start | enableInterrupt | disableInterrupt
  deriving DecidableEq, Repr

def TimerOperation.name : TimerOperation → String
  | .pause => "pause"
  | .start => "start"
  | .enableInterrupt => "enable interrupt"
  | .disableInterrupt => "disable interrupt"

inductive TimerError where
  | hardware (operation : TimerOperation) (reason : String)
  | invalidRate (rateHz : UInt32)
  deriving DecidableEq, Repr

def TimerError.message : TimerError → String
  | .hardware operation reason => "Timer " ++ operation.name ++ " failed: " ++ reason
  | .invalidRate rateHz => s!"Unsupported sample rate: {rateHz} Hz"

/-- What sampling needs of a timer. The first four operations always succeed; a failing one of the
others changes nothing. -/
class AlarmTimer (Timer : Type) where
  /-- Acknowledges the pending alarm. -/
  clearInterrupt : Timer → Timer
  /-- Current count in ticks. -/
  counter : Timer → UInt64
  /-- Writes the count at which the alarm is due. -/
  setAlarm : UInt64 → Timer → Timer
  enableAlarm : Timer → Timer
  pause : Timer → Except TimerError Timer
  start : Timer → Except TimerError Timer
  enableInterrupt : Timer → Except TimerError Timer
  disableInterrupt : Timer → Except TimerError Timer
  /-- Hands the alarm over to a handler; the error is the system's own text. -/
  attach : Timer → Except String Timer
  isCounting : Timer → Bool
  isInterruptEnabled : Timer → Bool
  isArmed : Timer → Bool

/-- A timer fires only while it counts with its interrupt enabled and its alarm armed. -/
def AlarmTimer.live {Timer : Type} [AlarmTimer Timer] (timer : Timer) : Bool :=
  isCounting timer && isInterruptEnabled timer && isArmed timer

/-- Distance of alarms in ticks, and the part of it that makes up for interrupt latency. -/
structure AlarmSchedule where
  periodTicks : UInt64
  fineAdjustTicks : UInt64
  deriving DecidableEq, Repr

namespace AlarmSchedule

/-- Interrupt latency: 1.4 microseconds. -/
def latencyTicks : Nat := 7

/-- A rate needs periods of at least twice the latency. -/
def ofRate (rateHz : UInt32) : Except TimerError AlarmSchedule :=
  if rateHz = 0 ∨ tickRateHz < rateHz.toNat * latencyTicks * 2 then .error (.invalidRate rateHz)
  else .ok ⟨.ofNat (tickRateHz / rateHz.toNat), .ofNat latencyTicks⟩

/-- Ticks between two alarms. -/
def stride (schedule : AlarmSchedule) : UInt64 :=
  schedule.periodTicks - schedule.fineAdjustTicks

/-- Alarm that follows a fire seen at `current`; the counter wraps. -/
def nextAlarm (schedule : AlarmSchedule) (current : UInt64) : UInt64 :=
  current + schedule.stride

/-- Writes and arms the alarm that follows `current`. -/
def arm {Timer : Type} [AlarmTimer Timer] (schedule : AlarmSchedule) (timer : Timer)
    (current : UInt64) : Timer :=
  AlarmTimer.enableAlarm (AlarmTimer.setAlarm (schedule.nextAlarm current) timer)

/-- Nominal time between two samples. -/
def period (schedule : AlarmSchedule) : Duration :=
  durationOf schedule.periodTicks

end AlarmSchedule

end Telemetry
