import Telemetry.Node.Basic

/-! The calibration engine: each frame is passed on raw, used for a calibration, or reduced to a
bitmask. -/
namespace Telemetry

/-- What the engine does with a frame. -/
inductive EngineMode where
  | rawPassthrough | calibrating | thresholding
  deriving DecidableEq, Repr

/-- Raw mode wins over calibration. -/
def Flags.engineMode (flags : Flags) : EngineMode :=
  if flags.rawMode then .rawPassthrough
  else if flags.calibrating then .calibrating
  else .thresholding

namespace Node

variable {Timer Input Store : Type}

/-- Takes a frame into the calibration, which starts afresh when none was being collected or the
epoch is new. -/
def collect (node : Node Timer Input Store) (frame : SampleFrame) :
    Traced (Node Timer Input Store) := do
  let engine := node.engine
  let epoch := node.state.calibrationEpoch
  if !engine.collecting || epoch != engine.seenEpoch then
    Traced.note (.calibrationStarted epoch)
    pure { node with
      engine := ⟨Calibration.reset.observe frame.data, true, epoch⟩ }
  else
    pure { node with
      engine := { engine with calibration := engine.calibration.observe frame.data } }

variable [ConfigStore Store]

/-- Derives the thresholds from the percentage in force and stores both; failures are reported only. -/
def updateThresholds (node : Node Timer Input Store) : Traced (Node Timer Input Store) := do
  let percent := node.state.thresholdPercent
  let calibration := node.engine.calibration.computeThresholds percent
  Traced.note (.thresholdsUpdated percent calibration.thresholds)
  let (_, store) ← Calibration.saveAll node.store
    ((.thresholdPercent, percent.toUInt16) :: calibration.entries)
  pure { node with store, engine := { node.engine with calibration } }

/-- Ends a calibration in progress, or follows a change of the percentage. -/
def refreshThresholds (node : Node Timer Input Store) : Traced (Node Timer Input Store) := do
  let settled := node.withFlags { node.state.flags with thresholdChanged := false }
  if node.engine.collecting then
    Traced.note (.calibrationFinished node.engine.calibration.maxima node.engine.calibration.minima)
    { settled with engine := { node.engine with collecting := false } }.updateThresholds
  else if node.state.flags.thresholdChanged then settled.updateThresholds
  else pure node

/-- Runs one frame through the engine. -/
def process (node : Node Timer Input Store) (frame : SampleFrame) :
    Traced (Option OutputFrame × Node Timer Input Store) := do
  match node.state.flags.engineMode with
  | .rawPassthrough => pure (some (.raw frame), node)
  | .calibrating => do
    let node ← node.collect frame
    pure (none, node)
  | .thresholding => do
    let node ← node.refreshThresholds
    pure (some (.threshold (frame.masked (node.engine.calibration.classify frame.data))), node)

end Node

end Telemetry
