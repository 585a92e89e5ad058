import Telemetry.State.Flags
import Telemetry.State.Statistics

/-! State that every stage of a node looks at. -/
namespace Telemetry

structure NodeState where
  flags : Flags := {}
  stats : Statistics := {}
  /-- Stamped on every sample. -/
  nodeId : UInt8
  thresholdPercent : UInt8
  thresholdPercent_le : thresholdPercent ≤ 100
  /-- Calibrations begun, wrapping. -/
  calibrationEpoch : UInt32 := 0
  /-- A node-id reload is queued and not yet handled. -/
  reloadClaimed : Bool := false
  deriving DecidableEq

/-- Percentages above a hundred count as a hundred. -/
def clampPercent (percent : UInt8) : UInt8 :=
  if percent ≤ 100 then percent else 100

theorem clampPercent_le (percent : UInt8) : clampPercent percent ≤ 100 := by
  unfold clampPercent
  split
  · assumption
  · decide

theorem clampPercent_of_le {percent : UInt8} (h : percent ≤ 100) : clampPercent percent = percent :=
  if_pos h

namespace NodeState

/-- A fresh state without flags. -/
def new (nodeId percent : UInt8) : NodeState where
  nodeId
  thresholdPercent := clampPercent percent
  thresholdPercent_le := clampPercent_le percent

def count (state : NodeState) (counter : Counter) : NodeState :=
  { state with stats := state.stats.record counter }

/-- Whether the clamped percentage differs from the one in force. -/
def percentDiffers (state : NodeState) (percent : UInt8) : Bool :=
  state.thresholdPercent != clampPercent percent

/-- Puts a percentage in force; thresholds are due again only if it differs. -/
def updatePercent (state : NodeState) (percent : UInt8) : NodeState :=
  { state with
    thresholdPercent := clampPercent percent
    thresholdPercent_le := clampPercent_le percent
    flags := { state.flags with
      thresholdChanged := state.flags.thresholdChanged || state.percentDiffers percent } }

/-- Every start of a calibration is an epoch of its own. -/
def beginCalibration (state : NodeState) : NodeState :=
  { state with
    calibrationEpoch := state.calibrationEpoch + 1
    flags := { state.flags with calibrating := true } }

def endCalibration (state : NodeState) : NodeState :=
  { state with flags := { state.flags with calibrating := false } }

/-- Takes the reload slot; true for the caller who got it. -/
def claimReload (state : NodeState) : Bool × NodeState :=
  (!state.reloadClaimed, { state with reloadClaimed := true })

def releaseReload (state : NodeState) : NodeState :=
  { state with reloadClaimed := false }

end NodeState

end Telemetry
