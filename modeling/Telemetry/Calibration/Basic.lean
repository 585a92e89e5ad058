import Telemetry.Config.Store
import Telemetry.Frame

/-! Calibration: the extremes seen on each channel, the threshold between them, and where they are
kept. -/
namespace Telemetry

/-- A threshold above every reading. -/
def thresholdUnset : UInt16 := 0xFFFF

/-- One channel's extremes and threshold. -/
structure ChannelCalibration where
  max : UInt16 := 0
  min : UInt16 := 0xFFFF
  threshold : UInt16 := thresholdUnset
  deriving DecidableEq, Repr

namespace ChannelCalibration

/-- A reading raises the maximum or, only if it does not, may lower the minimum. -/
def observe (channel : ChannelCalibration) (value : UInt16) : ChannelCalibration :=
  if channel.max < value then { channel with max := value }
  else if value < channel.min then { channel with min := value }
  else channel

/-- The point `percent` of the way from minimum to maximum, rounded down; unset when there is no way. -/
def thresholdAt (channel : ChannelCalibration) (percent : UInt8) : UInt16 :=
  if channel.min ≤ channel.max then
    let span := (channel.max - channel.min).toNat * (clampPercent percent).toNat / 100
    channel.min + UInt16.ofNat span
  else thresholdUnset

def withThresholdAt (percent : UInt8) (channel : ChannelCalibration) : ChannelCalibration :=
  { channel with threshold := channel.thresholdAt percent }

/-- Whether a reading is above the threshold. -/
def exceeds (channel : ChannelCalibration) (value : UInt16) : Bool :=
  channel.threshold < value

end ChannelCalibration

/-- The calibration of every channel. -/
structure Calibration where
  channels : Vector ChannelCalibration channelCount := Vector.replicate channelCount {}
  deriving DecidableEq, Repr

/-- First item lowest. -/
def maskOfBits : List Bool → UInt8
  | [] => 0
  | bit :: rest => (maskOfBits rest <<< 1) ||| (if bit then 1 else 0)

namespace Calibration

def maxima (calibration : Calibration) : Reading :=
  calibration.channels.map (·.max)

def minima (calibration : Calibration) : Reading :=
  calibration.channels.map (·.min)

def thresholds (calibration : Calibration) : Reading :=
  calibration.channels.map (·.threshold)

/-- Nothing seen, no threshold. -/
def reset : Calibration := {}

def observe (calibration : Calibration) (data : Reading) : Calibration :=
  ⟨calibration.channels.zipWith ChannelCalibration.observe data⟩

def computeThresholds (calibration : Calibration) (percent : UInt8) : Calibration :=
  ⟨calibration.channels.map (ChannelCalibration.withThresholdAt percent)⟩

/-- One bit per channel, set where the reading is above the threshold. -/
def classify (calibration : Calibration) (data : Reading) : UInt8 :=
  maskOfBits (calibration.channels.zipWith ChannelCalibration.exceeds data).toList

variable {Store : Type} [ConfigStore Store]

/-- Maximum, minimum and threshold of a channel, in this order, with defaults for what is missing. -/
def loadChannel (store : Store) (channel : Nat) : Traced (ChannelCalibration × Store) := do
  let fresh : ChannelCalibration := {}
  let (max, store) ← ConfigStore.loadOrDefault store (.calibrationMax channel) fresh.max
  let (min, store) ← ConfigStore.loadOrDefault store (.calibrationMin channel) fresh.min
  let (threshold, store) ← ConfigStore.loadOrDefault store (.threshold channel) fresh.threshold
  pure ({ max, min, threshold }, store)

/-- The stored calibration, channel by channel. -/
def load (store : Store) : Traced (Calibration × Store) := do
  let (c0, store) ← loadChannel store 0
  let (c1, store) ← loadChannel store 1
  let (c2, store) ← loadChannel store 2
  let (c3, store) ← loadChannel store 3
  pure (⟨#v[c0, c1, c2, c3]⟩, store)

/-- What is stored of a calibration, in the order of writing. -/
def entries (calibration : Calibration) : List (ConfigKey × UInt16) :=
  calibration.channels.toList.zipIdx.flatMap fun (values, channel) =>
    [(.calibrationMax channel, values.max), (.calibrationMin channel, values.min),
      (.threshold channel, values.threshold)]

/-- Writes entry after entry, going on after a failure, and counts the failures. -/
def saveAll (store : Store) : List (ConfigKey × UInt16) → Traced (Nat × Store)
  | [] => pure (0, store)
  | (key, value) :: rest =>
    match ConfigStore.set store key value with
    | (.ok (), written) => saveAll written rest
    | (.error error, left) => do
      Traced.note (.itemNotSaved key error)
      let (failures, last) ← saveAll left rest
      pure (failures + 1, last)

/-- Stores the calibration; the number tells how many writes failed. -/
def persist (calibration : Calibration) (store : Store) : Traced (Nat × Store) :=
  saveAll store calibration.entries

end Calibration

end Telemetry
