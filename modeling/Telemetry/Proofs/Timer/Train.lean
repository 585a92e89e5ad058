import Telemetry.Proofs.Timer.Driver

/-! Alarms in train: for every rate that is accepted, each call of a handler that arms the next alarm comes one stride
after the call before it, however long the driver slept and whatever the counter wraps around. -/
namespace Telemetry

namespace AlarmSchedule

theorem ofRate_eq_ok_iff {rateHz : UInt32} {schedule : AlarmSchedule} :
    ofRate rateHz = .ok schedule ↔ (1 ≤ rateHz.toNat ∧ rateHz.toNat ≤ 357142) ∧
      schedule = ⟨.ofNat (tickRateHz / rateHz.toNat), .ofNat latencyTicks⟩ := by
  have hZero : rateHz = 0 ↔ rateHz.toNat = 0 := UInt32.toNat_inj.symm
  have hRefused : (rateHz = 0 ∨ tickRateHz < rateHz.toNat * latencyTicks * 2) ↔
      ¬ (1 ≤ rateHz.toNat ∧ rateHz.toNat ≤ 357142) := by
    rw [hZero, tickRateHz, latencyTicks]
    omega
  rw [ofRate]
  split
  · rename_i h
    constructor
    · intro hOk
      cases hOk
    · rintro ⟨hRate, -⟩
      exact absurd hRate (hRefused.mp h)
  · rename_i h
    have hRate := Decidable.not_not.mp (mt hRefused.mpr h)
    constructor
    · intro hOk
      exact ⟨hRate, (Except.ok.inj hOk).symm⟩
    · rintro ⟨-, rfl⟩
      rfl

variable {rateHz : UInt32} {schedule : AlarmSchedule}

theorem toNat_periodTicks_of_ofRate (h : ofRate rateHz = .ok schedule) :
    schedule.periodTicks.toNat = tickRateHz / rateHz.toNat := by
  obtain ⟨-, rfl⟩ := ofRate_eq_ok_iff.mp h
  exact UInt64.toNat_ofNat_of_lt' (Nat.lt_of_le_of_lt (Nat.div_le_self ..) (by decide))

/-- So many periods fill a second as well as whole ticks can. -/
theorem period_of_ofRate (h : ofRate rateHz = .ok schedule) :
    rateHz.toNat * schedule.periodTicks.toNat ≤ tickRateHz ∧
    tickRateHz < rateHz.toNat * (schedule.periodTicks.toNat + 1) := by
  obtain ⟨⟨hPositive, -⟩, -⟩ := ofRate_eq_ok_iff.mp h
  rw [toNat_periodTicks_of_ofRate h]
  exact ⟨Nat.mul_div_le .., Nat.lt_mul_div_succ _ hPositive⟩

/-- The latency is at most half of a period, so that taking it off leaves no less than the latency. -/
theorem stride_of_ofRate (h : ofRate rateHz = .ok schedule) :
    schedule.fineAdjustTicks ≤ schedule.periodTicks ∧
    schedule.stride.toNat = schedule.periodTicks.toNat - 7 ∧ 7 ≤ schedule.stride.toNat := by
  obtain ⟨⟨hPositive, hMost⟩, hSchedule⟩ := ofRate_eq_ok_iff.mp h
  have hFine : schedule.fineAdjustTicks.toNat = 7 := by
    rw [hSchedule]
    rfl
  have hPeriod : 14 ≤ schedule.periodTicks.toNat := by
    rw [toNat_periodTicks_of_ofRate h, Nat.le_div_iff_mul_le hPositive, tickRateHz]
    omega
  have hLe : schedule.fineAdjustTicks ≤ schedule.periodTicks := by
    rw [UInt64.le_iff_toNat_le]
    omega
  have hStride : schedule.stride.toNat = schedule.periodTicks.toNat - 7 := by
    rw [stride, UInt64.toNat_sub_of_le _ _ hLe, hFine]
  exact ⟨hLe, hStride, by omega⟩

/-- The alarm of this number, the first having the number zero. -/
def alarmAt (schedule : AlarmSchedule) (first : UInt64) (number : Nat) : UInt64 :=
  first + .ofNat number * schedule.stride

theorem alarmAt_zero (schedule : AlarmSchedule) (first : UInt64) : schedule.alarmAt first 0 = first := by
  change first + 0 * schedule.stride = first
  rw [UInt64.zero_mul, UInt64.add_zero]

theorem alarmAt_succ (first : UInt64) (number : Nat) :
    schedule.alarmAt (schedule.nextAlarm first) number = schedule.alarmAt first (number + 1) := by
  rw [alarmAt, alarmAt, nextAlarm, UInt64.ofNat_add, UInt64.add_mul, UInt64.add_assoc]
  congr 1
  rw [UInt64.add_comm]
  congr 1
  exact (UInt64.one_mul _).symm

/-- The number of an alarm counts strides, and the counter wraps. -/
theorem toNat_alarmAt (first : UInt64) (number : Nat) :
    (schedule.alarmAt first number).toNat =
      (first.toNat + number * schedule.stride.toNat) % UInt64.size := by
  rw [alarmAt, UInt64.toNat_add, UInt64.toNat_mul, UInt64.toNat_ofNat']
  simp [Nat.add_mod, Nat.mul_mod]

end AlarmSchedule

/-- A timer as its handler finds it and as the handler leaves it. -/
structure Call where
  entry : SimulatedTimer
  exit : SimulatedTimer

/-- The handler that acknowledges the alarm and arms the one that follows the count it sees. -/
def rearming (schedule : AlarmSchedule) (timer : SimulatedTimer) : Call × SimulatedTimer :=
  let acknowledged := AlarmTimer.clearInterrupt timer
  let rearmed := schedule.arm acknowledged (AlarmTimer.counter acknowledged)
  (⟨timer, rearmed⟩, rearmed)

/-- Calls at one stride from each other, the first at the alarm that the timer has. The handler finds the fire pending
and the alarm disarmed, and leaves it acknowledged and armed; each call is one more fire. -/
def InTrain (schedule : AlarmSchedule) (timer : SimulatedTimer) (calls : List Call) : Prop :=
  ∀ number call, calls[number]? = some call →
    call.entry.counter.toNat = (timer.alarm.toNat + number * schedule.stride.toNat) % UInt64.size ∧
    (call.entry.pending = true ∧ call.entry.armed = false) ∧
    (call.exit.pending = false ∧ call.exit.armed = true) ∧
    call.entry.fires = timer.fires + .ofNat (number + 1)

section Driven

variable {schedule : AlarmSchedule}

/-- The call of this number at a train of alarms. -/
def callAt (schedule : AlarmSchedule) (first fires : UInt64) (number : Nat) : Call :=
  let entry : SimulatedTimer := {
    counter := schedule.alarmAt first number
    alarm := schedule.alarmAt first number
    armed := false
    counting := true
    interruptEnabled := true
    pending := true
    fires := fires + .ofNat (number + 1) }
  ⟨entry, { entry with alarm := schedule.alarmAt first (number + 1), armed := true, pending := false }⟩

theorem rearming_fire {timer : SimulatedTimer} (h : AlarmTimer.live timer = true) :
    rearming schedule timer.fire =
      (callAt schedule timer.alarm timer.fires 0, (callAt schedule timer.alarm timer.fires 0).exit) := by
  obtain ⟨hCounting, hInterrupt, -⟩ := Driver.armed_of_live h
  have hNext : schedule.alarmAt timer.alarm 1 = schedule.nextAlarm timer.alarm := by
    rw [← AlarmSchedule.alarmAt_succ, AlarmSchedule.alarmAt_zero]
  have hEntry : timer.fire = (callAt schedule timer.alarm timer.fires 0).entry := by
    simp only [SimulatedTimer.fire, callAt, AlarmSchedule.alarmAt_zero, hCounting, hInterrupt]
    rfl
  have hExit : (rearming schedule timer.fire).2 = (callAt schedule timer.alarm timer.fires 0).exit := by
    rw [hEntry]
    simp only [callAt, rearming, AlarmSchedule.arm, hNext, AlarmSchedule.alarmAt_zero]
    rfl
  apply Prod.ext
  · change Call.mk timer.fire (rearming schedule timer.fire).2 = _
    rw [hExit, hEntry]
  · exact hExit

/-- Where the train of one call goes on, the next call stands first. -/
theorem callAt_next (first fires : UInt64) (number : Nat) :
    callAt schedule (schedule.nextAlarm first) (fires + 1) number = callAt schedule first fires (number + 1) := by
  have hFires : fires + 1 + .ofNat (number + 1) = fires + .ofNat (number + 1 + 1) := by
    rw [UInt64.ofNat_add (number + 1) 1, UInt64.add_assoc, UInt64.add_comm 1]
    rfl
  simp only [callAt, AlarmSchedule.alarmAt_succ, hFires]

theorem inTrain_of_callAt {timer : SimulatedTimer} {calls : List Call}
    (h : ∀ number call, calls[number]? = some call → call = callAt schedule timer.alarm timer.fires number) :
    InTrain schedule timer calls := by
  intro number call hCall
  rw [h number call hCall]
  exact ⟨AlarmSchedule.toNat_alarmAt .., ⟨rfl, rfl⟩, ⟨rfl, rfl⟩, rfl⟩

/-- Whatever the times at which the driver wakes and whatever the timer is told in between, an armed timer whose alarm
nobody else writes calls its handler at the alarms of the train, and every call counts. -/
theorem run_rearming (schedule : AlarmSchedule) (driver : Driver) (actions : List Driver.Action)
    (hArmed : driver.timer.armed = true) (hOthers : ∀ alarm, .arm alarm ∉ actions) :
    (∀ number call, (driver.run (rearming schedule) actions).1[number]? = some call →
      call = callAt schedule driver.timer.alarm driver.timer.fires number) ∧
    (driver.run (rearming schedule) actions).2.timer.fires =
      driver.timer.fires + .ofNat (driver.run (rearming schedule) actions).1.length := by
  induction actions generalizing driver with
  | nil =>
    refine ⟨fun number call hCall => by simp [Driver.run] at hCall, ?_⟩
    exact (UInt64.add_zero _).symm
  | cons action rest ih =>
    have hRest : ∀ alarm, .arm alarm ∉ rest := fun alarm hMember => hOthers alarm (List.mem_cons_of_mem _ hMember)
    rw [Driver.run_cons]
    cases action with
    | wake now =>
      rw [Driver.step]
      rcases Driver.pass_cases (rearming schedule) now driver with
        ⟨origin, hPass⟩ | ⟨hLive, origin, hPass⟩
      · rw [hPass]
        exact ih { driver with origin } hArmed hRest
      · -- The call moves the train on by one alarm, and what follows is the train from there.
        rw [hPass, rearming_fire hLive]
        have hAlarm : (callAt schedule driver.timer.alarm driver.timer.fires 0).exit.alarm =
            schedule.nextAlarm driver.timer.alarm := by
          rw [← AlarmSchedule.alarmAt_zero schedule (schedule.nextAlarm driver.timer.alarm),
            AlarmSchedule.alarmAt_succ]
          rfl
        have hFires : (callAt schedule driver.timer.alarm driver.timer.fires 0).exit.fires =
            driver.timer.fires + 1 := rfl
        obtain ⟨hCalls, hCount⟩ :=
          ih ⟨(callAt schedule driver.timer.alarm driver.timer.fires 0).exit, origin⟩ rfl hRest
        rw [hAlarm, hFires] at hCalls
        rw [hFires] at hCount
        refine ⟨?_, ?_⟩
        · intro number call hCall
          cases number with
          | zero => exact (Option.some.inj hCall).symm
          | succ number => rw [hCalls number call hCall, callAt_next]
        · rw [hCount, List.singleton_append, List.length_cons, UInt64.ofNat_add, UInt64.add_assoc, UInt64.add_comm 1]
          rfl
    | control operation =>
      obtain ⟨counting, interruptEnabled, hTimer⟩ := Driver.controlled_cases driver.timer operation
      rw [Driver.step, hTimer]
      exact ih { driver with timer := { driver.timer with counting, interruptEnabled } } hArmed hRest
    | arm alarm => exact absurd (List.mem_cons_self ..) (hOthers alarm)

theorem length_drive_rearming {timer : SimulatedTimer} (h : AlarmTimer.live timer = true) (calls : Nat) :
    (timer.drive (rearming schedule) calls).1.length = calls := by
  induction calls generalizing timer with
  | zero => rfl
  | succ calls ih =>
    rw [SimulatedTimer.drive, if_pos h, rearming_fire h]
    exact congrArg (· + 1) (ih rfl)

/-- A drive calls the handler as often as it may, at the alarms of the train. -/
theorem drive_rearming {timer : SimulatedTimer} (h : AlarmTimer.live timer = true) (calls : Nat) :
    InTrain schedule timer (timer.drive (rearming schedule) calls).1 ∧
    (timer.drive (rearming schedule) calls).2.fires = timer.fires + .ofNat calls := by
  obtain ⟨wakes, origin, hRun⟩ := Driver.exists_wakes (rearming schedule) calls timer
  obtain ⟨-, -, hArmed⟩ := Driver.armed_of_live h
  obtain ⟨hCalls, hFires⟩ := run_rearming schedule ⟨timer, none⟩ (wakes.map .wake) hArmed (by simp)
  rw [hRun] at hCalls hFires
  rw [length_drive_rearming h] at hFires
  exact ⟨inTrain_of_callAt hCalls, hFires⟩

end Driven

/-- A drive calls a handler that does not arm the alarm once at most. -/
theorem length_drive_le {Report : Type} {handler : SimulatedTimer → Report × SimulatedTimer}
    (hHandler : ∀ timer : SimulatedTimer, (handler timer.fire).2.armed = false) (timer : SimulatedTimer)
    (calls : Nat) : (timer.drive handler calls).1.length ≤ timer.armed.toNat := by
  obtain ⟨wakes, origin, hRun⟩ := Driver.exists_wakes handler calls timer
  have hNone : Driver.armings (wakes.map .wake) = 0 := by
    clear hRun
    induction wakes with
    | nil => rfl
    | cons wake rest ih => exact ih
  have hLength := Driver.length_run_le hHandler ⟨timer, none⟩ (wakes.map .wake)
  rw [hRun, hNone, Nat.zero_add] at hLength
  exact hLength

/-- Rates from one up to the one whose period is twice the latency are accepted, and for each of them alarms come at
exact strides, without drift through any number of fires and through the wrap of the counter: in a drive of a timer, and
in every run of the driver's loop in which only the handler arms the alarm. The loop serves every alarm that is due when it
wakes, and woken at certain times it makes the calls of a drive. A handler that does not arm the alarm is called at most
once for each arming. -/
theorem alarms_without_drift (rateHz : UInt32) :
    ((∃ schedule, AlarmSchedule.ofRate rateHz = .ok schedule) ↔ 1 ≤ rateHz.toNat ∧ rateHz.toNat ≤ 357142) ∧
    (∀ schedule, AlarmSchedule.ofRate rateHz = .ok schedule →
      (rateHz.toNat * schedule.periodTicks.toNat ≤ 5000000 ∧
        5000000 < rateHz.toNat * (schedule.periodTicks.toNat + 1)) ∧
      (schedule.fineAdjustTicks ≤ schedule.periodTicks ∧
        schedule.stride.toNat = schedule.periodTicks.toNat - 7 ∧ 7 ≤ schedule.stride.toNat) ∧
      (∀ timer : SimulatedTimer, AlarmTimer.live timer = true → ∀ calls,
        (timer.drive (rearming schedule) calls).1.length = calls ∧
        InTrain schedule timer (timer.drive (rearming schedule) calls).1 ∧
        (timer.drive (rearming schedule) calls).2.fires = timer.fires + .ofNat calls) ∧
      ∀ (driver : Driver) (actions : List Driver.Action), driver.timer.armed = true →
        (∀ alarm, .arm alarm ∉ actions) →
        InTrain schedule driver.timer (driver.run (rearming schedule) actions).1 ∧
        (driver.run (rearming schedule) actions).2.timer.fires =
          driver.timer.fires + .ofNat (driver.run (rearming schedule) actions).1.length) ∧
    ∀ (Report : Type) (handler : SimulatedTimer → Report × SimulatedTimer),
      (∀ (driver : Driver) now, AlarmTimer.live driver.timer = true →
        driver.timer.alarm.toNat ≤ (driver.following now).countAt now →
        driver.pass handler now =
          ([(handler driver.timer.fire).1], ⟨(handler driver.timer.fire).2, driver.following now⟩)) ∧
      (∀ (timer : SimulatedTimer) calls, ∃ (wakes : List Duration) (origin : Option Origin),
        Driver.run handler ⟨timer, none⟩ (wakes.map .wake) =
          ((timer.drive handler calls).1, ⟨(timer.drive handler calls).2, origin⟩)) ∧
      ((∀ timer : SimulatedTimer, (handler timer.fire).2.armed = false) →
        (∀ (timer : SimulatedTimer) calls, (timer.drive handler calls).1.length ≤ timer.armed.toNat) ∧
        ∀ (driver : Driver) actions,
          (driver.run handler actions).1.length ≤ Driver.armings actions + driver.timer.armed.toNat) := by
  refine ⟨?_, ?_, ?_⟩
  · constructor
    · rintro ⟨schedule, hSchedule⟩
      exact (AlarmSchedule.ofRate_eq_ok_iff.mp hSchedule).1
    · intro hRate
      exact ⟨_, AlarmSchedule.ofRate_eq_ok_iff.mpr ⟨hRate, rfl⟩⟩
  · intro schedule hSchedule
    refine ⟨AlarmSchedule.period_of_ofRate hSchedule, AlarmSchedule.stride_of_ofRate hSchedule, ?_, ?_⟩
    · intro timer hLive calls
      exact ⟨length_drive_rearming hLive calls, drive_rearming hLive calls⟩
    · intro driver actions hArmed hOthers
      obtain ⟨hCalls, hFires⟩ := run_rearming schedule driver actions hArmed hOthers
      exact ⟨inTrain_of_callAt hCalls, hFires⟩
  · intro Report handler
    refine ⟨?_, ?_, ?_⟩
    · intro driver now hLive hDue
      exact Driver.pass_of_due handler hLive hDue
    · intro timer calls
      exact Driver.exists_wakes handler calls timer
    · intro hHandler
      exact ⟨length_drive_le hHandler, Driver.length_run_le hHandler⟩

/-- The fastest rate, over the wrap of the counter; and a handler that only acknowledges, called for an alarm that is
due, with the alarm armed once more in between. -/
theorem alarms_without_drift_wrapping :
    let schedule : AlarmSchedule := ⟨14, 7⟩
    let timer : SimulatedTimer :=
      { counter := 5, alarm := 18446744073709551610, armed := true, counting := true, interruptEnabled := true }
    let acknowledging := fun timer : SimulatedTimer => (timer.counter, AlarmTimer.clearInterrupt timer)
    let actions : List Driver.Action := [.wake Driver.late, .wake default, .arm 3, .wake Driver.late]
    AlarmSchedule.ofRate 357142 = .ok schedule ∧ AlarmTimer.live timer = true ∧
    InTrain schedule timer (timer.drive (rearming schedule) 3).1 ∧
    (timer.drive (rearming schedule) 3).1.map (·.entry.counter) = [18446744073709551610, 1, 8] ∧
    (Driver.pass acknowledging Driver.late ⟨timer, some ⟨default, 5⟩⟩).1 = [18446744073709551610] ∧
    (Driver.run acknowledging ⟨timer, none⟩ actions).1.length ≤ 2 := by
  intro schedule timer acknowledging actions
  obtain ⟨-, hTrain, hLoop⟩ := alarms_without_drift 357142
  have hSchedule : AlarmSchedule.ofRate 357142 = .ok schedule := rfl
  obtain ⟨-, -, hDrive, -⟩ := hTrain schedule hSchedule
  obtain ⟨-, hCalls, -⟩ := hDrive timer (by decide) 3
  obtain ⟨hServed, -, hOnce⟩ := hLoop UInt64 acknowledging
  have hDue := hServed ⟨timer, some ⟨default, 5⟩⟩ Driver.late (by decide) (by decide)
  refine ⟨hSchedule, by decide, hCalls, by decide, congrArg Prod.fst hDue, ?_⟩
  exact (hOnce fun _ => rfl).2 ⟨timer, none⟩ actions

end Telemetry
