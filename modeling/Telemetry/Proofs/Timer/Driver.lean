import Telemetry.Proofs.Time.Conversion
import Telemetry.Timer.Driver

/-! Runs of the loop that drives a simulated timer, woken at any times while others control the timer. It serves every
alarm that is due, it calls the handler at most once for each arming, and every drive of a timer is a run of it. -/
namespace Telemetry

/-- The timer after a control operation, which a simulated one always carries out. -/
def SimulatedTimer.controlled (timer : SimulatedTimer) (operation : TimerOperation) : SimulatedTimer :=
  let done : Except TimerError SimulatedTimer := match operation with
    | .pause => AlarmTimer.pause timer
    | .start => AlarmTimer.start timer
    | .enableInterrupt => AlarmTimer.enableInterrupt timer
    | .disableInterrupt => AlarmTimer.disableInterrupt timer
  done.toOption.getD timer

namespace Driver

/-- What happens to a driven timer: its driver wakes at a time of the clock, or somebody else controls or arms it. -/
inductive Action where
  | wake (now : Duration)
  | control (operation : TimerOperation)
  | arm (alarm : UInt64)

variable {Report : Type} (handler : SimulatedTimer → Report × SimulatedTimer)

def step (driver : Driver) : Action → List Report × Driver
  | .wake now => driver.pass handler now
  | .control operation => ([], { driver with timer := driver.timer.controlled operation })
  | .arm alarm =>
    ([], { driver with timer := AlarmTimer.enableAlarm (AlarmTimer.setAlarm alarm driver.timer) })

/-- What the handler reports, oldest first, and the driver in the end. -/
def run : Driver → List Action → List Report × Driver
  | driver, [] => ([], driver)
  | driver, action :: rest =>
    let (reports, next) := driver.step handler action
    let (later, last) := run next rest
    (reports ++ later, last)

/-- How often others arm the alarm. -/
def armings : List Action → Nat
  | [] => 0
  | .arm _ :: rest => armings rest + 1
  | _ :: rest => armings rest

/-- A pass leaves the timer alone, or finds it live and calls the handler once. -/
theorem pass_cases (now : Duration) (driver : Driver) :
    (∃ origin, driver.pass handler now = ([], { driver with origin })) ∨
    AlarmTimer.live driver.timer = true ∧ ∃ origin, driver.pass handler now =
      ([(handler driver.timer.fire).1], ⟨(handler driver.timer.fire).2, origin⟩) := by
  unfold pass
  split
  · rename_i hLive
    dsimp only
    split
    · exact .inl ⟨_, rfl⟩
    · exact .inr ⟨hLive, _, rfl⟩
  · exact .inl ⟨none, rfl⟩

/-- A live timer whose alarm is due is served. -/
theorem pass_of_due {now : Duration} {driver : Driver} (hLive : AlarmTimer.live driver.timer = true)
    (hDue : driver.timer.alarm.toNat ≤ (driver.following now).countAt now) :
    driver.pass handler now =
      ([(handler driver.timer.fire).1], ⟨(handler driver.timer.fire).2, driver.following now⟩) := by
  rw [pass, if_pos hLive]
  exact if_neg (Nat.not_lt.mpr hDue)

variable {handler}

theorem run_cons (driver : Driver) (action : Action) (rest : List Action) :
    run handler driver (action :: rest) =
      ((driver.step handler action).1 ++ (run handler (driver.step handler action).2 rest).1,
        (run handler (driver.step handler action).2 rest).2) :=
  rfl

theorem armed_of_live {timer : SimulatedTimer} (h : AlarmTimer.live timer = true) :
    timer.counting = true ∧ timer.interruptEnabled = true ∧ timer.armed = true := by
  obtain ⟨hRunning, hArmed⟩ := Bool.and_eq_true_iff.mp h
  obtain ⟨hCounting, hInterrupt⟩ := Bool.and_eq_true_iff.mp hRunning
  exact ⟨hCounting, hInterrupt, hArmed⟩

/-- A control operation changes neither the alarm nor anything that was counted. -/
theorem controlled_cases (timer : SimulatedTimer) (operation : TimerOperation) :
    ∃ counting interruptEnabled, timer.controlled operation = { timer with counting, interruptEnabled } := by
  cases operation with
  | pause => exact ⟨false, timer.interruptEnabled, rfl⟩
  | start => exact ⟨true, timer.interruptEnabled, rfl⟩
  | enableInterrupt => exact ⟨timer.counting, true, rfl⟩
  | disableInterrupt => exact ⟨timer.counting, false, rfl⟩

/-- A call uses up the arming that led to it. -/
theorem length_step_le (hHandler : ∀ timer : SimulatedTimer, (handler timer.fire).2.armed = false)
    (driver : Driver) (action : Action) :
    (driver.step handler action).1.length + (driver.step handler action).2.timer.armed.toNat ≤
      armings [action] + driver.timer.armed.toNat := by
  cases action with
  | wake now =>
    rw [step]
    rcases pass_cases handler now driver with ⟨origin, hPass⟩ | ⟨hLive, origin, hPass⟩
    · rw [hPass]
      exact Nat.le_refl _
    · obtain ⟨-, -, hArmed⟩ := armed_of_live hLive
      rw [hPass, hArmed]
      dsimp only
      rw [hHandler driver.timer]
      exact Nat.le_refl _
  | control operation =>
    obtain ⟨counting, interruptEnabled, hTimer⟩ := controlled_cases driver.timer operation
    rw [step, hTimer]
    exact Nat.le_refl _
  | arm alarm => exact Nat.le_add_right 1 _

theorem armings_cons (action : Action) (rest : List Action) :
    armings (action :: rest) = armings [action] + armings rest := by
  cases action with
  | arm alarm => exact Nat.add_comm _ _
  | _ => exact (Nat.zero_add _).symm

/-- A handler that does not arm the alarm is called at most once for each arming by others, and once more if the alarm
was armed from the start. -/
theorem length_run_le (hHandler : ∀ timer : SimulatedTimer, (handler timer.fire).2.armed = false)
    (driver : Driver) (actions : List Action) :
    (run handler driver actions).1.length ≤ armings actions + driver.timer.armed.toNat := by
  induction actions generalizing driver with
  | nil => exact Nat.zero_le _
  | cons action rest ih =>
    have hStep := length_step_le hHandler driver action
    have hRest := ih (driver.step handler action).2
    rw [run_cons, List.length_append, armings_cons]
    omega

/-! A drive of a timer leaves time out. It is what the loop does when it is woken late enough. -/

/-- A time at which every alarm is due that the driver has followed from the beginning of time. -/
def late : Duration :=
  .ofNanos Duration.limit

theorem pass_late (count : UInt64) {timer : SimulatedTimer} (h : AlarmTimer.live timer = true) :
    pass handler late ⟨timer, some ⟨default, count⟩⟩ =
      ([(handler timer.fire).1], ⟨(handler timer.fire).2, some ⟨default, count⟩⟩) := by
  have hTicks : (ticksIn (.ofNanos (late.nanos - (default : Duration).nanos))).toNat = wordMax := by decide
  refine pass_of_due handler h ?_
  change _ ≤ (Origin.mk default count).countAt late
  rw [Origin.countAt, countAfter, hTicks, Nat.min_eq_right (Nat.le_add_left ..)]
  exact Nat.le_of_lt_succ timer.alarm.toNat_lt

variable (handler)

private theorem exists_wakes_followed (count : UInt64) (calls : Nat) (timer : SimulatedTimer) :
    ∃ (wakes : List Duration) (origin : Option Origin),
      run handler ⟨timer, some ⟨default, count⟩⟩ (wakes.map .wake) =
        ((timer.drive handler calls).1, ⟨(timer.drive handler calls).2, origin⟩) := by
  induction calls generalizing timer with
  | zero => exact ⟨[], _, rfl⟩
  | succ calls ih =>
    cases hLive : AlarmTimer.live timer with
    | false =>
      rw [SimulatedTimer.drive, hLive]
      exact ⟨[], _, rfl⟩
    | true =>
      obtain ⟨wakes, origin, hRun⟩ := ih (handler timer.fire).2
      refine ⟨late :: wakes, origin, ?_⟩
      rw [List.map_cons, run_cons, step, pass_late count hLive, SimulatedTimer.drive, if_pos hLive]
      dsimp only
      rw [hRun]
      rfl

/-- However often a drive may call the handler, the loop makes the same calls when it is woken at certain times. -/
theorem exists_wakes (calls : Nat) (timer : SimulatedTimer) :
    ∃ (wakes : List Duration) (origin : Option Origin), run handler ⟨timer, none⟩ (wakes.map .wake) =
      ((timer.drive handler calls).1, ⟨(timer.drive handler calls).2, origin⟩) := by
  cases calls with
  | zero => exact ⟨[], none, rfl⟩
  | succ calls =>
    cases hLive : AlarmTimer.live timer with
    | false =>
      rw [SimulatedTimer.drive, hLive]
      exact ⟨[], none, rfl⟩
    | true =>
      -- The first pass takes the origin; it makes the first call at once only if the alarm is not ahead.
      by_cases hAhead : (Origin.mk default timer.counter).countAt default < timer.alarm.toNat
      · obtain ⟨wakes, origin, hRun⟩ := exists_wakes_followed handler timer.counter (calls + 1) timer
        have hPass : pass handler default ⟨timer, none⟩ = ([], ⟨timer, some ⟨default, timer.counter⟩⟩) := by
          rw [pass, if_pos hLive]
          exact if_pos hAhead
        refine ⟨default :: wakes, origin, ?_⟩
        rw [List.map_cons, run_cons, step, hPass]
        exact hRun
      · obtain ⟨wakes, origin, hRun⟩ :=
          exists_wakes_followed handler timer.counter calls (handler timer.fire).2
        have hPass : pass handler default ⟨timer, none⟩ =
            ([(handler timer.fire).1], ⟨(handler timer.fire).2, some ⟨default, timer.counter⟩⟩) :=
          pass_of_due handler hLive (Nat.not_lt.mp hAhead)
        refine ⟨default :: wakes, origin, ?_⟩
        rw [List.map_cons, run_cons, step, hPass, SimulatedTimer.drive, if_pos hLive]
        dsimp only
        rw [hRun]
        rfl

end Driver

end Telemetry
