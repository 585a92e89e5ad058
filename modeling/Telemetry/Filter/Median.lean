import Telemetry.Filter.MergeSort

/-! Sliding-window median filters. Each push writes the median back over the middle of the window, so
later medians see earlier medians as well as readings. -/
namespace Telemetry

/-- A window of `2 * half + 1` values, oldest first. -/
structure MedianFilter (half : Nat) where
  window : List UInt16
  length_window : window.length = 2 * half + 1
  deriving DecidableEq

namespace MedianFilter

variable {half : Nat}

/-- A window of zeros. -/
def zero : MedianFilter half :=
  ⟨List.replicate (2 * half + 1) 0, by simp⟩

instance : Inhabited (MedianFilter half) := ⟨zero⟩

/-- The window after its oldest value has made room for a new one. -/
def shifted (filter : MedianFilter half) (value : UInt16) : List UInt16 :=
  filter.window.tail ++ [value]

/-- Middle value of the shifted window in sorted order. -/
def median (filter : MedianFilter half) (value : UInt16) : UInt16 :=
  (MergeSort.sorted (filter.shifted value)).getD half 0

/-- Takes in a reading; the median replaces whatever stood in the middle slot. -/
def push (filter : MedianFilter half) (value : UInt16) : MedianFilter half where
  window := (filter.shifted value).set half (filter.median value)
  length_window := by simp [shifted, filter.length_window]

/-- Medians of a run of readings, with the filter they leave. -/
def pushAll (filter : MedianFilter half) : List UInt16 → List UInt16 × MedianFilter half
  | [] => ([], filter)
  | value :: values =>
    let (medians, last) := (filter.push value).pushAll values
    (filter.median value :: medians, last)

end MedianFilter

/-- Half width of the window used for sampling: five readings. -/
abbrev samplingHalf : Nat := 2

/-- One median filter per channel. -/
structure ChannelFilters where
  filters : Vector (MedianFilter samplingHalf) channelCount

namespace ChannelFilters

def zero : ChannelFilters :=
  ⟨Vector.replicate channelCount MedianFilter.zero⟩

/-- The smoothed value of each channel's reading. -/
def medians (channels : ChannelFilters) (raw : Reading) : Reading :=
  channels.filters.zipWith MedianFilter.median raw

/-- Each channel takes in its own reading only. -/
def push (channels : ChannelFilters) (raw : Reading) : ChannelFilters :=
  ⟨channels.filters.zipWith MedianFilter.push raw⟩

def channel? (channels : ChannelFilters) (channel : Nat) : Option (MedianFilter samplingHalf) :=
  channels.filters[channel]?

end ChannelFilters

end Telemetry
