import Telemetry.Node.Start
import Telemetry.Proofs.Node.Deferred
import Telemetry.Timer.Simulated

/-! Timers whose control operations do what they are asked: what each leaves in the three registers
that decide whether an alarm comes. -/
namespace Telemetry

/-- The part of a timer that decides whether it fires. -/
structure Registers where
  counting : Bool
  interruptEnabled : Bool
  armed : Bool
  deriving DecidableEq

def AlarmTimer.registers {Timer : Type} [AlarmTimer Timer] (timer : Timer) : Registers :=
  ⟨isCounting timer, isInterruptEnabled timer, isArmed timer⟩

/-- Every control operation succeeds and writes its own register only. A fire disarms the alarm, at the
latest when it is acknowledged. -/
class DependableTimer (Timer : Type) extends AlarmTimer Timer where
  /-- The timer as a fire leaves it for the handler. -/
  fire : Timer → Timer
  registers_acknowledged (timer : Timer) : AlarmTimer.registers (AlarmTimer.clearInterrupt (fire timer)) =
    { AlarmTimer.registers timer with armed := false }
  registers_setAlarm (ticks : UInt64) (timer : Timer) :
    AlarmTimer.registers (AlarmTimer.setAlarm ticks timer) = AlarmTimer.registers timer
  registers_enableAlarm (timer : Timer) :
    AlarmTimer.registers (AlarmTimer.enableAlarm timer) =
      { AlarmTimer.registers timer with armed := true }
  pause_ok (timer : Timer) : ∃ paused, AlarmTimer.pause timer = .ok paused ∧
    AlarmTimer.registers paused = { AlarmTimer.registers timer with counting := false }
  start_ok (timer : Timer) : ∃ started, AlarmTimer.start timer = .ok started ∧
    AlarmTimer.registers started = { AlarmTimer.registers timer with counting := true }
  enableInterrupt_ok (timer : Timer) : ∃ enabled, AlarmTimer.enableInterrupt timer = .ok enabled ∧
    AlarmTimer.registers enabled = { AlarmTimer.registers timer with interruptEnabled := true }
  disableInterrupt_ok (timer : Timer) : ∃ disabled, AlarmTimer.disableInterrupt timer = .ok disabled ∧
    AlarmTimer.registers disabled = { AlarmTimer.registers timer with interruptEnabled := false }
  registers_attached (timer attached : Timer) : AlarmTimer.attach timer = .ok attached →
    AlarmTimer.registers attached = AlarmTimer.registers timer

instance : DependableTimer SimulatedTimer where
  fire := SimulatedTimer.fire
  registers_acknowledged _ := rfl
  registers_setAlarm _ _ := rfl
  registers_enableAlarm _ := rfl
  pause_ok _ := ⟨_, rfl, rfl⟩
  start_ok _ := ⟨_, rfl, rfl⟩
  enableInterrupt_ok _ := ⟨_, rfl, rfl⟩
  disableInterrupt_ok _ := ⟨_, rfl, rfl⟩
  registers_attached _ _ h := by
    cases h
    rfl

namespace DependableTimer

variable {Timer : Type} [DependableTimer Timer]

theorem registers_arm (schedule : AlarmSchedule) (timer : Timer) (now : UInt64) :
    AlarmTimer.registers (schedule.arm timer now) =
      { AlarmTimer.registers timer with armed := true } := by
  rw [AlarmSchedule.arm, registers_enableAlarm, registers_setAlarm]

theorem registers_stopped (timer : Timer) :
    AlarmTimer.registers (AlarmTimer.stopped timer) =
      { AlarmTimer.registers timer with counting := false, interruptEnabled := false } := by
  obtain ⟨paused, hPaused, hCounting⟩ := pause_ok timer
  obtain ⟨disabled, hDisabled, hInterrupt⟩ := disableInterrupt_ok paused
  have hStopped : AlarmTimer.stopped timer = disabled := by
    simp only [AlarmTimer.stopped, hPaused, hDisabled, Except.toOption, Option.getD_some]
  rw [hStopped, hInterrupt, hCounting]

theorem registers_of_bringUp {timer started : Timer} (h : AlarmTimer.bringUp timer = .ok started) :
    AlarmTimer.registers started = ⟨true, true, (AlarmTimer.registers timer).armed⟩ := by
  obtain ⟨enabled, hEnabled, hInterrupt⟩ := enableInterrupt_ok timer
  obtain ⟨counting, hCounting, hRegisters⟩ := start_ok enabled
  rw [AlarmTimer.bringUp, hEnabled] at h
  dsimp only at h
  rw [hCounting] at h
  dsimp only at h
  split at h
  · cases h
  · rename_i attached hAttached
    obtain rfl := Except.ok.inj h
    rw [registers_attached _ _ hAttached, hRegisters, hInterrupt]

end DependableTimer

end Telemetry
