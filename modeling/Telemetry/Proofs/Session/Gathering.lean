import Mathlib.Data.List.Induction
import Telemetry.Proofs.Session.Run

/-! Which frames a calibration is made of, however starts, stops and raw interludes fall between them, and
which of them its thresholds are derived from. -/
namespace Telemetry

namespace ChannelCalibration

theorem min_observe_ne {channel : ChannelCalibration} {value : UInt16}
    (hMax : (channel.observe value).max = 0) : (channel.observe value).min ≠ 0xFFFF := by
  unfold observe at hMax ⊢
  split at hMax
  · grind
  · split at hMax
    · grind
    · grind

end ChannelCalibration

namespace Calibration

/-- A calibration that starts afresh and observes these frames. -/
def ofFrames (frames : List SampleFrame) : Calibration :=
  frames.foldl (fun calibration frame => calibration.observe frame.data) .reset

theorem ofFrames_concat (frames : List SampleFrame) (frame : SampleFrame) :
    ofFrames (frames ++ [frame]) = (ofFrames frames).observe frame.data := by
  rw [ofFrames, List.foldl_append]
  rfl

/-- One frame is enough to tell a calibration from a fresh one. -/
theorem computeThresholds_ofFrames_ne {frames : List SampleFrame} (h : frames ≠ []) (percent : UInt8) :
    (ofFrames frames).computeThresholds percent ≠ reset.computeThresholds percent := by
  obtain ⟨earlier, last, rfl⟩ := List.eq_nil_or_concat' frames |>.resolve_left h
  rw [ofFrames_concat]
  intro hEqual
  have hMax := congrArg (fun calibration => calibration.channels[0].max) hEqual
  have hMin := congrArg (fun calibration => calibration.channels[0].min) hEqual
  simp only [computeThresholds, observe, reset, Vector.getElem_map, Vector.getElem_zipWith,
    Vector.getElem_replicate, ChannelCalibration.withThresholdAt] at hMax hMin
  exact ChannelCalibration.min_observe_ne hMax hMin

end Calibration

namespace Session

variable {Timer Input Store : Type} [AlarmTimer Timer] [ConfigStore Store]
  {start : Node Timer Input Store} {actions : List Action}

theorem gathered_begin (start : Node Timer Input Store) (actions : List Action) :
    gathered start (actions ++ [.begin]) = [] := by
  rw [gathered, List.rtakeWhile_concat_neg _ _ _ (by simp)]
  rfl

theorem gathered_concat {action : Action} (h : action ≠ .begin) :
    gathered start (actions ++ [action]) = gathered start actions ++ collects (run start actions) action := by
  rw [gathered, List.rdropWhile_concat_pos _ _ _ (by simpa), List.rtakeWhile_concat_pos _ _ _ (by simpa),
    observed_concat, ← run_append, List.rdropWhile_append_rtakeWhile]
  rfl

omit [AlarmTimer Timer] [ConfigStore Store] in
theorem collects_of_unexamined {node : Node Timer Input Store} {action : Action}
    (h : examines node action = []) : collects node action = [] := by
  cases action with
  | frame frame =>
    rw [examines] at h
    rw [collects]
    split at h
    · rename_i hRaw
      rw [if_neg (by simp [hRaw])]
    · cases h
  | _ => rfl

/-- Steps that examine no frame leave what was gathered, or put it aside for a new calibration. -/
theorem gathered_append {earlier between : List Action}
    (h : observed examines (run start earlier) between = []) :
    gathered start (earlier ++ between) = if .begin ∈ between then [] else gathered start earlier := by
  induction between using List.reverseRecOn with
  | nil => simp
  | append_singleton between action ih =>
    rw [observed_concat] at h
    obtain ⟨hBetween, hAction⟩ := List.append_eq_nil_iff.mp h
    rw [← List.append_assoc]
    by_cases hBegin : action = .begin
    · subst hBegin
      rw [gathered_begin, if_pos (by simp)]
    · rw [gathered_concat hBegin, run_append, collects_of_unexamined hAction, List.append_nil,
        ih hBetween]
      simp [Ne.symm hBegin]

/-- A step that examines no frame leaves the engine alone, and the epoch unless it is a start. -/
theorem step_of_unexamined {node : Node Timer Input Store} {action : Action}
    (h : examines node action = []) :
    (step node action).engine = node.engine ∧
    (step node action).state.calibrationEpoch =
      node.state.calibrationEpoch + .ofNat ([action].count .begin) := by
  have hView := view_step node action
  cases action with
  | frame frame =>
    rw [examines] at h
    split at h
    · rename_i hRaw
      rw [step, Node.process_of_raw hRaw]
      simp
    · cases h
  | begin =>
    exact ⟨congrArg View.engine hView, congrArg View.epoch hView⟩
  | _ =>
    refine ⟨congrArg View.engine hView, (congrArg View.epoch hView).trans ?_⟩
    simp [View.next, view]

/-- Calibrating mode goes back to a start. -/
theorem calibrating_of_step {node : Node Timer Input Store} {action : Action}
    (h : (step node action).state.flags.calibrating = true) :
    action = .begin ∨ node.state.flags.calibrating = true := by
  have hView := congrArg View.calibrating (view_step node action)
  cases action with
  | begin => exact .inl rfl
  | finish => cases hView.symm.trans h
  | frame frame =>
    refine .inr (Eq.trans ?_ (hView.symm.trans h))
    rw [View.next, View.afterFrame]
    split
    · rfl
    · rfl
    · split <;> rfl
  | _ => exact .inr (hView.symm.trans h)

/-- While a calibration is collected, the engine holds what was gathered up to the frame it took last.
Since then no frame was examined, and the epochs have moved on by the number of starts. -/
structure Collecting (start : Node Timer Input Store) (actions before : List Action)
    (last : SampleFrame) (between : List Action) : Prop where
  split : actions = before ++ .frame last :: between
  unexamined : observed examines (run start (before ++ [.frame last])) between = []
  epoch : (run start actions).state.calibrationEpoch =
    (run start actions).engine.seenEpoch + .ofNat (between.count .begin)
  calibration : (run start actions).engine.calibration =
    .ofFrames (gathered start (before ++ [.frame last]))
  taken : last ∈ gathered start (before ++ [.frame last])

namespace Collecting

variable {before between : List Action} {last : SampleFrame}

theorem gathered_eq (h : Collecting start actions before last between) :
    gathered start actions =
      if .begin ∈ between then [] else gathered start (before ++ [.frame last]) := by
  rw [h.split, List.append_cons]
  exact gathered_append h.unexamined

theorem concat (h : Collecting start actions before last between) {action : Action}
    (hAction : examines (run start actions) action = []) :
    Collecting start (actions ++ [action]) before last (between ++ [action]) := by
  obtain ⟨hEngine, hEpoch⟩ := step_of_unexamined hAction
  have hSplit : actions = (before ++ [.frame last]) ++ between := by
    rw [h.split, ← List.append_cons]
  refine ⟨?_, ?_, ?_, ?_, h.taken⟩
  · rw [h.split, List.append_assoc, List.cons_append]
  · rw [observed_concat, h.unexamined, ← run_append, ← hSplit, hAction]
    rfl
  · rw [run_concat, hEpoch, hEngine, h.epoch, List.count_append, UInt32.ofNat_add, UInt32.add_assoc]
  · rw [run_concat, hEngine]
    exact h.calibration

/-- As long as the starts are bounded, the epoch tells whether there was one. -/
theorem epoch_eq_iff (h : Collecting start actions before last between)
    (hBound : between.count .begin < UInt32.size) :
    (run start actions).state.calibrationEpoch = (run start actions).engine.seenEpoch ↔
      .begin ∉ between := by
  rw [h.epoch, ← List.count_eq_zero, ← UInt32.toNat_inj]
  have hSeen := (run start actions).engine.seenEpoch.toNat_lt
  simp only [UInt32.size, UInt32.toNat_add, UInt32.toNat_ofNat'] at hBound ⊢
  omega

end Collecting

/-- What holds of a run from a state that asks for no calibration. -/
structure Invariant (start : Node Timer Input Store) (actions : List Action) : Prop where
  begun : (run start actions).state.flags.calibrating = true → .begin ∈ actions
  waiting : (run start actions).engine.collecting = false →
    (run start actions).state.flags.calibrating = true → gathered start actions = []
  collecting : (run start actions).engine.collecting = true →
    ∃ before last between, Collecting start actions before last between

namespace Invariant

theorem unexamined (h : Invariant start actions) {action : Action}
    (hAction : examines (run start actions) action = []) :
    Invariant start (actions ++ [action]) := by
  obtain ⟨hEngine, -⟩ := step_of_unexamined hAction
  refine ⟨?_, ?_, ?_⟩
  · intro hFlag
    rw [run_concat] at hFlag
    rcases calibrating_of_step hFlag with rfl | hEarlier
    · simp
    · exact List.mem_append_left _ (h.begun hEarlier)
  · intro hIdle hFlag
    rw [run_concat] at hIdle hFlag
    by_cases hBegin : action = .begin
    · subst hBegin
      exact gathered_begin start actions
    · have hEarlier := (calibrating_of_step hFlag).resolve_left hBegin
      rw [gathered_concat hBegin, collects_of_unexamined hAction, List.append_nil]
      exact h.waiting (hEngine ▸ hIdle) hEarlier
  · intro hCollecting
    rw [run_concat, hEngine] at hCollecting
    obtain ⟨before, last, between, hLast⟩ := h.collecting hCollecting
    exact ⟨before, last, between ++ [action], hLast.concat hAction⟩

/-- A frame taken in calibrating mode joins what was gathered since the last start. -/
theorem calibration_collected (h : Invariant start actions) {frame : SampleFrame}
    (hMode : (run start actions).state.flags.engineMode = .calibrating)
    (hBounded : StartsBounded start (actions ++ [.frame frame])) :
    ((run start actions).engine.collected (run start actions).state.calibrationEpoch
      frame.data).calibration = .ofFrames (gathered start actions ++ [frame]) := by
  have hFresh (hNone : gathered start actions = []) : Calibration.reset.observe frame.data =
      .ofFrames (gathered start actions ++ [frame]) := by
    rw [hNone]
    rfl
  unfold Engine.collected
  cases hCollecting : (run start actions).engine.collecting with
  | false => exact hFresh (h.waiting hCollecting ((Flags.engineMode_eq_calibrating_iff _).mp hMode).2)
  | true =>
    obtain ⟨before, last, between, hLast⟩ := h.collecting hCollecting
    -- Without the bound the epoch could come round to the one seen last and hide a start.
    have hCount : between.count .begin < UInt32.size := by
      refine hBounded before last between frame [] ?_ hLast.unexamined
      rw [hLast.split, List.append_assoc, List.cons_append]
    have hGathered := hLast.gathered_eq
    by_cases hEpoch : (run start actions).state.calibrationEpoch = (run start actions).engine.seenEpoch
    · rw [if_neg ((hLast.epoch_eq_iff hCount).mp hEpoch)] at hGathered
      rw [if_pos (by simpa using hEpoch)]
      simp only [hLast.calibration, ← hGathered, Calibration.ofFrames_concat]
    · rw [if_pos (by simpa using mt (hLast.epoch_eq_iff hCount).mpr hEpoch)] at hGathered
      rw [if_neg (by simpa using hEpoch)]
      exact hFresh hGathered

theorem calibrated (h : Invariant start actions) {frame : SampleFrame}
    (hMode : (run start actions).state.flags.engineMode = .calibrating)
    (hBounded : StartsBounded start (actions ++ [.frame frame])) :
    Invariant start (actions ++ [.frame frame]) := by
  have hFlag := ((Flags.engineMode_eq_calibrating_iff _).mp hMode).2
  have hGathered : gathered start (actions ++ [.frame frame]) = gathered start actions ++ [frame] := by
    rw [gathered_concat (by simp), collects, if_pos hMode]
  have hStep : run start (actions ++ [.frame frame]) = { run start actions with
      engine := (run start actions).engine.collected (run start actions).state.calibrationEpoch
        frame.data } := by
    rw [run_concat]
    exact Node.process_of_calibrating hMode frame
  refine ⟨?_, ?_, ?_⟩
  · intro _
    exact List.mem_append_left _ (h.begun hFlag)
  · intro hIdle
    rw [hStep] at hIdle
    exact absurd hIdle (by simp [Engine.collecting_collected])
  · intro _
    refine ⟨actions, frame, [], rfl, rfl, ?_, ?_, ?_⟩
    · rw [hStep]
      simp [Engine.seenEpoch_collected]
    · rw [hGathered, hStep]
      exact h.calibration_collected hMode hBounded
    · simp [hGathered]

theorem thresholded {frame : SampleFrame}
    (hMode : (run start actions).state.flags.engineMode = .thresholding) :
    Invariant start (actions ++ [.frame frame]) := by
  have hFlag : (run start (actions ++ [.frame frame])).state.flags.calibrating ≠ true := by
    rw [run_concat]
    intro hRaised
    have hEarlier := (calibrating_of_step hRaised).resolve_left (by simp)
    rw [((Flags.engineMode_eq_thresholding_iff _).mp hMode).2] at hEarlier
    cases hEarlier
  have hIdle : (run start (actions ++ [.frame frame])).engine.collecting = false := by
    rw [run_concat]
    exact ((Node.thresholdsDue_eq_false_iff _).mp (Node.thresholdsDue_process hMode frame)).1
  refine ⟨fun hRaised => absurd hRaised hFlag, fun _ hRaised => absurd hRaised hFlag, ?_⟩
  intro hCollecting
  rw [hIdle] at hCollecting
  cases hCollecting

theorem concat (h : Invariant start actions) {action : Action}
    (hBounded : StartsBounded start (actions ++ [action])) : Invariant start (actions ++ [action]) := by
  cases action with
  | frame frame =>
    cases hMode : (run start actions).state.flags.engineMode with
    | rawPassthrough => exact h.unexamined (by rw [examines, if_pos hMode])
    | calibrating => exact h.calibrated hMode hBounded
    | thresholding => exact .thresholded hMode
  | _ => exact h.unexamined rfl

end Invariant

theorem StartsBounded.of_concat {action : Action} (h : StartsBounded start (actions ++ [action])) :
    StartsBounded start actions := by
  intro before first between second after hSplit
  apply h before first between second (after ++ [action])
  rw [hSplit]
  simp

theorem invariant_run (hFresh : Fresh start) (hBounded : StartsBounded start actions) :
    Invariant start actions := by
  induction actions using List.reverseRecOn with
  | nil =>
    have hIdle : start.engine.collecting = false := by
      obtain ⟨store, hLoaded⟩ := hFresh.loaded
      exact (congrArg (fun loaded => loaded.1.collecting) hLoaded).symm
    refine ⟨?_, fun _ _ => rfl, ?_⟩
    · intro hFlag
      cases hFresh.calibrating.symm.trans hFlag
    · intro hCollecting
      cases hIdle.symm.trans hCollecting
  | append_singleton actions action ih => exact (ih hBounded.of_concat).concat hBounded

end Session

end Telemetry
