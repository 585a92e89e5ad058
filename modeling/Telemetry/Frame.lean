import Telemetry.Basic

/-! Frames on their way from sampling to the wire. -/
namespace Telemetry

/-- One smoothed reading, stamped when it was taken. -/
structure SampleFrame where
  /-- Node id in force at the tick. -/
  nodeId : UInt8
  /-- Sampling ticks before this one, wrapping. -/
  counter : UInt32
  data : Reading
  deriving DecidableEq, Repr

/-- One bit per channel, set where the reading was above its threshold. -/
structure ThresholdFrame where
  nodeId : UInt8
  counter : UInt8
  bitmask : UInt8
  deriving DecidableEq, Repr

/-- The thresholded form of a sample keeps the low byte of its counter. -/
def SampleFrame.masked (sample : SampleFrame) (bitmask : UInt8) : ThresholdFrame :=
  ⟨sample.nodeId, sample.counter.toUInt8, bitmask⟩

/-- What leaves the engine: the sample itself, or its bitmask. -/
inductive OutputFrame where
  | raw (sample : SampleFrame)
  | threshold (frame : ThresholdFrame)
  deriving DecidableEq, Repr

end Telemetry
