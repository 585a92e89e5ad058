import Mathlib.Data.List.Induction
import Telemetry.Proofs.Calibration.Thresholds
import Telemetry.Proofs.Session.Run

/-! Thresholds follow the percentage: a change is owed until a thresholded frame has paid it. -/
namespace Telemetry

namespace ChannelCalibration

/-- The threshold is the one that the extremes and this percentage call for: so much of the way from minimum to
maximum, rounded down, or none where the maximum is below the minimum. No percentage counts for more than a hundred. -/
def SettledAt (channel : ChannelCalibration) (percent : UInt8) : Prop :=
  channel.threshold.toNat =
    if channel.min ≤ channel.max then
      channel.min.toNat + (channel.max.toNat - channel.min.toNat) * Nat.min percent.toNat 100 / 100
    else 0xFFFF

instance (channel : ChannelCalibration) (percent : UInt8) : Decidable (channel.SettledAt percent) :=
  inferInstanceAs (Decidable (_ = _))

theorem settledAt_withThresholdAt (channel : ChannelCalibration) (percent : UInt8) :
    (channel.withThresholdAt percent).SettledAt percent := by
  change (channel.thresholdAt percent).toNat = if channel.min ≤ channel.max then _ else _
  split
  · rename_i hOrder
    rw [toNat_thresholdAt hOrder, span, toNat_clampPercent]
    rfl
  · rename_i hNone
    rw [thresholdAt_of_max_lt (UInt16.not_le.mp hNone)]
    rfl

end ChannelCalibration

namespace Calibration

/-- Every channel has the threshold that its extremes and this percentage call for. -/
def SettledAt (calibration : Calibration) (percent : UInt8) : Prop :=
  ∀ channel : Fin channelCount, (calibration.channels.get channel).SettledAt percent

instance (calibration : Calibration) (percent : UInt8) : Decidable (calibration.SettledAt percent) :=
  inferInstanceAs (Decidable (∀ channel : Fin channelCount, (calibration.channels.get channel).SettledAt percent))

theorem settledAt_computeThresholds (calibration : Calibration) (percent : UInt8) :
    (calibration.computeThresholds percent).SettledAt percent := by
  intro channel
  have hChannel : (calibration.computeThresholds percent).channels.get channel =
      (calibration.channels.get channel).withThresholdAt percent :=
    Vector.getElem_map _ channel.isLt
  rw [hChannel]
  exact ChannelCalibration.settledAt_withThresholdAt _ percent

end Calibration

namespace Session

/-- With nothing owed, thresholds agree with extremes and percentage. -/
def View.Settled (view : View) : Prop :=
  view.thresholdChanged = false → view.engine.collecting = false →
    view.engine.calibration.SettledAt view.percent

namespace View

theorem Settled.afterFrame {view : View} (h : view.Settled) (data : Reading) :
    (view.afterFrame data).Settled := by
  unfold View.afterFrame
  split
  · exact h
  · intro _ hIdle
    rw [Engine.collecting_collected] at hIdle
    cases hIdle
  · split
    · intro _ _
      exact Calibration.settledAt_computeThresholds _ _
    · exact h

theorem Settled.next {view : View} (h : view.Settled) (action : Action) : (view.next action).Settled := by
  cases action with
  | percent percent =>
    intro hChanged hIdle
    obtain ⟨hBefore, hSame⟩ := Bool.or_eq_false_iff.mp hChanged
    have hPercent : view.percent = clampPercent percent := by simpa using hSame
    have hSettled := h hBefore hIdle
    rw [hPercent] at hSettled
    exact hSettled
  | frame frame => exact h.afterFrame frame.data
  | _ => exact h

end View

variable {Timer Input Store : Type} [AlarmTimer Timer] [ConfigStore Store]

theorem settled_run {start : Node Timer Input Store} (h : (view start).Settled) (actions : List Action) :
    (view (run start actions)).Settled := by
  induction actions using List.reverseRecOn with
  | nil => exact h
  | append_singleton actions action ih =>
    rw [run_concat, view_step]
    exact ih.next action

/-- Once thresholds agree with extremes and percentage, as on an empty store, no change of the percentage is
lost: they agree again whenever none is owed and no calibration is collected, and every thresholded frame
leaves them so. The mask that goes out for it has the bits of the channels above thresholds of the percentage
then in force. -/
theorem thresholds_follow_percent {start : Node Timer Input Store}
    (hSettled : start.engine.calibration.SettledAt start.state.thresholdPercent) (actions : List Action) :
    ((run start actions).state.flags.thresholdChanged = false →
      (run start actions).engine.collecting = false →
      (run start actions).engine.calibration.SettledAt (run start actions).state.thresholdPercent) ∧
    ∀ frame, (run start actions).state.flags.engineMode = .thresholding →
      let percent := (run start actions).state.thresholdPercent
      let next := run start (actions ++ [.frame frame])
      next.state.flags.thresholdChanged = false ∧ next.engine.collecting = false ∧
      next.state.thresholdPercent = percent ∧ next.engine.calibration.SettledAt percent ∧
      ∃ mask, ((run start actions).process frame).value.1 =
          some (.threshold ⟨frame.nodeId, frame.counter.toUInt8, mask⟩) ∧
        next.engine.calibration.Marks frame.data mask := by
  have hRun (actions : List Action) : (view (run start actions)).Settled :=
    settled_run (fun _ _ => hSettled) actions
  refine ⟨hRun actions, ?_⟩
  intro frame hMode percent next
  have hNext : next = ((run start actions).process frame).value.2 := run_concat start actions (.frame frame)
  obtain ⟨hIdle, hChanged⟩ : next.engine.collecting = false ∧ next.state.flags.thresholdChanged = false :=
    next.thresholdsDue_eq_false_iff.mp (hNext ▸ Node.thresholdsDue_process hMode frame)
  have hPercent : next.state.thresholdPercent = percent := by
    obtain ⟨engine, store, flags, hProcess⟩ := (run start actions).value_process frame
    rw [hNext, hProcess]
  have hAgree : next.engine.calibration.SettledAt next.state.thresholdPercent :=
    hRun (actions ++ [Action.frame frame]) hChanged hIdle
  rw [hPercent] at hAgree
  refine ⟨hChanged, hIdle, hPercent, hAgree, next.engine.calibration.classify frame.data, ?_,
    Calibration.marks_classify _ _⟩
  rw [Node.output_process, hMode, hNext]
  rfl

/-- A change made while a calibration from 50 to 100 is collected and another behind raw mode both arrive: at 75 per
cent the thresholds are 87, at 20 per cent they are 60, and a frame is judged by the latter. -/
theorem thresholds_follow_percent_trial :
    let gathered : List Action := [.begin, .frame (level 100), .percent 75, .frame (level 50), .finish]
    let actions := gathered ++ [.frame (level 0), .rawMode true, .percent 20, .frame (level 0), .rawMode false]
    let frame : SampleFrame := ⟨5, 258, #v[61, 60, 10, 100]⟩
    let earlier := run trial (gathered ++ [.frame (level 0)])
    let next := run trial (actions ++ [.frame frame])
    trial.engine.calibration.SettledAt trial.state.thresholdPercent ∧
    (run trial gathered).state.flags.engineMode = .thresholding ∧
    (run trial actions).state.flags.engineMode = .thresholding ∧
    earlier.engine.calibration.SettledAt 75 ∧
    earlier.engine.calibration.thresholds = .replicate channelCount 87 ∧
    next.state.flags.thresholdChanged = false ∧ next.engine.calibration.SettledAt 20 ∧
    next.engine.calibration.thresholds = .replicate channelCount 60 ∧
    ((run trial actions).process frame).value.1 = some (.threshold ⟨5, 2, 0b1001⟩) ∧
    next.engine.calibration.Marks frame.data 0b1001 := by
  intro gathered actions frame earlier next
  have hSettled : trial.engine.calibration.SettledAt trial.state.thresholdPercent := by decide
  have hMask : ((run trial actions).process frame).value.1 = some (.threshold ⟨5, 2, 0b1001⟩) := by
    decide +kernel
  obtain ⟨-, -, -, hEarlier, -⟩ := (thresholds_follow_percent hSettled gathered).2 (level 0) rfl
  obtain ⟨hChanged, -, -, hAgree, mask, hSent, hMarks⟩ :=
    (thresholds_follow_percent hSettled actions).2 frame rfl
  obtain rfl : 0b1001 = mask := by
    have hSame := Option.some.inj (hMask.symm.trans hSent)
    simp only [OutputFrame.threshold.injEq, ThresholdFrame.mk.injEq] at hSame
    exact hSame.2.2
  exact ⟨hSettled, rfl, rfl, hEarlier, by decide +kernel, hChanged, hAgree, by decide +kernel, hMask, hMarks⟩

end Session

end Telemetry
