import Telemetry.Node.Processing

/-! What one frame does to the engine's side of a node: the output follows the mode in force and the
thresholds the engine is left with. -/
namespace Telemetry

theorem Flags.engineMode_eq_calibrating_iff (flags : Flags) :
    flags.engineMode = .calibrating ↔ flags.rawMode = false ∧ flags.calibrating = true := by
  cases hRaw : flags.rawMode <;> cases hCalibrating : flags.calibrating <;>
    simp [engineMode, hRaw, hCalibrating]

theorem Flags.engineMode_eq_thresholding_iff (flags : Flags) :
    flags.engineMode = .thresholding ↔ flags.rawMode = false ∧ flags.calibrating = false := by
  cases hRaw : flags.rawMode <;> cases hCalibrating : flags.calibrating <;>
    simp [engineMode, hRaw, hCalibrating]

/-- What a frame becomes in each mode, given the calibration in force once it is done. -/
def EngineMode.output? (calibration : Calibration) (frame : SampleFrame) :
    EngineMode → Option OutputFrame
  | .rawPassthrough => some (.raw frame)
  | .calibrating => none
  | .thresholding => some (.threshold (frame.masked (calibration.classify frame.data)))

theorem EngineMode.output?_eq_none_iff {mode : EngineMode} {calibration : Calibration} {frame : SampleFrame} :
    mode.output? calibration frame = none ↔ mode = .calibrating := by
  cases mode <;> simp [output?]

namespace Engine

/-- The engine once it has taken data into a calibration of this epoch. -/
def collected (engine : Engine) (epoch : UInt32) (data : Reading) : Engine :=
  if engine.collecting && epoch == engine.seenEpoch then
    { engine with calibration := engine.calibration.observe data }
  else ⟨Calibration.reset.observe data, true, epoch⟩

theorem collecting_collected (engine : Engine) (epoch : UInt32) (data : Reading) :
    (engine.collected epoch data).collecting = true := by
  unfold collected
  split
  · rename_i hSame
    exact (Bool.and_eq_true_iff.mp hSame).1
  · rfl

theorem seenEpoch_collected (engine : Engine) (epoch : UInt32) (data : Reading) :
    (engine.collected epoch data).seenEpoch = epoch := by
  unfold collected
  split
  · rename_i hSame
    exact (beq_iff_eq.mp (Bool.and_eq_true_iff.mp hSame).2).symm
  · rfl

/-- The engine with its calibration ended and thresholds for this percentage. -/
def settled (engine : Engine) (percent : UInt8) : Engine :=
  { engine with calibration := engine.calibration.computeThresholds percent, collecting := false }

end Engine

namespace Node

variable {Timer Input Store : Type}

private theorem value_collect (node : Node Timer Input Store) (frame : SampleFrame) :
    ∃ engine, (node.collect frame).value = { node with engine } := by
  unfold collect
  dsimp only
  split
  · exact ⟨_, rfl⟩
  · exact ⟨_, rfl⟩

variable [ConfigStore Store]

private theorem value_refreshThresholds (node : Node Timer Input Store) :
    ∃ engine store flags, node.refreshThresholds.value =
      { node with engine, store, state := { node.state with flags } } := by
  unfold refreshThresholds
  dsimp only
  split
  · exact ⟨_, _, _, rfl⟩
  · split
    · exact ⟨_, _, _, rfl⟩
    · exact ⟨node.engine, node.store, node.state.flags, rfl⟩

/-- A frame changes the engine, the store and the flags only. -/
theorem value_process (node : Node Timer Input Store) (frame : SampleFrame) :
    ∃ engine store flags, (node.process frame).value =
      (node.state.flags.engineMode.output? engine.calibration frame,
        { node with engine, store, state := { node.state with flags } }) := by
  unfold process
  cases node.state.flags.engineMode with
  | rawPassthrough => exact ⟨node.engine, node.store, node.state.flags, rfl⟩
  | calibrating =>
    obtain ⟨engine, hc⟩ := node.value_collect frame
    refine ⟨engine, node.store, node.state.flags, ?_⟩
    simp only [Traced.value_bind, Traced.value_pure, hc]
    rfl
  | thresholding =>
    obtain ⟨engine, store, flags, hr⟩ := node.value_refreshThresholds
    refine ⟨engine, store, flags, ?_⟩
    simp only [Traced.value_bind, Traced.value_pure, hr]
    rfl

/-- What comes out of a frame follows from the mode it meets and the thresholds it leaves. -/
theorem output_process (node : Node Timer Input Store) (frame : SampleFrame) :
    (node.process frame).value.1 =
      node.state.flags.engineMode.output? (node.process frame).value.2.engine.calibration frame := by
  obtain ⟨engine, store, flags, h⟩ := node.value_process frame
  rw [h]

theorem process_of_raw {node : Node Timer Input Store}
    (h : node.state.flags.engineMode = .rawPassthrough) (frame : SampleFrame) :
    (node.process frame).value.2 = node := by
  rw [process, h]
  rfl

theorem process_of_calibrating {node : Node Timer Input Store}
    (h : node.state.flags.engineMode = .calibrating) (frame : SampleFrame) :
    (node.process frame).value.2 =
      { node with engine := node.engine.collected node.state.calibrationEpoch frame.data } := by
  rw [process, h]
  simp only [Traced.value_bind, Traced.value_pure, collect, Engine.collected]
  cases hCollecting : node.engine.collecting
  · rfl
  · by_cases hEpoch : node.state.calibrationEpoch = node.engine.seenEpoch
    · simp [hEpoch]
    · simp [hEpoch]

/-- Whether the next thresholded frame derives the thresholds anew. -/
def thresholdsDue (node : Node Timer Input Store) : Bool :=
  node.engine.collecting || node.state.flags.thresholdChanged

omit [ConfigStore Store] in
theorem thresholdsDue_eq_false_iff (node : Node Timer Input Store) : node.thresholdsDue = false ↔
    node.engine.collecting = false ∧ node.state.flags.thresholdChanged = false :=
  Bool.or_eq_false_iff

/-- What is written when thresholds are derived: the percentage and the calibration. -/
def settledEntries (node : Node Timer Input Store) : List (ConfigKey × UInt16) :=
  (.thresholdPercent, node.state.thresholdPercent.toUInt16) ::
    (node.engine.calibration.computeThresholds node.state.thresholdPercent).entries

theorem process_of_due {node : Node Timer Input Store}
    (hMode : node.state.flags.engineMode = .thresholding) (hDue : node.thresholdsDue = true)
    (frame : SampleFrame) :
    (node.process frame).value.2 = { node with
      engine := node.engine.settled node.state.thresholdPercent
      store := (Calibration.saveAll node.store node.settledEntries).value.2
      state := { node.state with flags := { node.state.flags with thresholdChanged := false } } } := by
  rw [process, hMode]
  simp only [Traced.value_bind, Traced.value_pure, refreshThresholds]
  cases hCollecting : node.engine.collecting with
  | true => rfl
  | false =>
    have hChanged : node.state.flags.thresholdChanged = true := by
      simpa [thresholdsDue, hCollecting] using hDue
    simp only [hChanged, Bool.false_eq_true, if_false, if_true, Engine.settled, updateThresholds,
      withFlags, Traced.value_bind, Traced.value_pure, hCollecting, settledEntries]

theorem process_of_not_due {node : Node Timer Input Store}
    (hMode : node.state.flags.engineMode = .thresholding) (hDue : node.thresholdsDue = false)
    (frame : SampleFrame) : (node.process frame).value.2 = node := by
  obtain ⟨hCollecting, hChanged⟩ := node.thresholdsDue_eq_false_iff.mp hDue
  rw [process, hMode]
  simp [refreshThresholds, hCollecting, hChanged]

/-- A thresholded frame leaves nothing due. -/
theorem thresholdsDue_process {node : Node Timer Input Store}
    (hMode : node.state.flags.engineMode = .thresholding) (frame : SampleFrame) :
    (node.process frame).value.2.thresholdsDue = false := by
  cases hDue : node.thresholdsDue with
  | false => rw [process_of_not_due hMode hDue, hDue]
  | true =>
    rw [process_of_due hMode hDue]
    rfl

end Node

end Telemetry
