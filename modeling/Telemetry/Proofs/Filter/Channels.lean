import Mathlib.Data.List.Induction
import Telemetry.Filter.Median

/-! The channel filters after a run of readings: each is the lone filter of its channel's own values. -/
namespace Telemetry

namespace MedianFilter

variable {half : Nat}

theorem pushAll_concat (filter : MedianFilter half) (values : List UInt16) (value : UInt16) :
    filter.pushAll (values ++ [value]) =
      ((filter.pushAll values).1 ++ [(filter.pushAll values).2.median value],
        (filter.pushAll values).2.push value) := by
  induction values generalizing filter with
  | nil => rfl
  | cons first rest ih =>
    rw [List.cons_append, pushAll, ih]
    rfl

/-- What a fresh filter gives for the last of the values fed to it. -/
def smoothed (half : Nat) (values : List UInt16) : UInt16 :=
  ((zero : MedianFilter half).pushAll values).1.getLastD 0

theorem smoothed_concat (values : List UInt16) (value : UInt16) :
    smoothed half (values ++ [value]) = ((zero : MedianFilter half).pushAll values).2.median value := by
  rw [smoothed, pushAll_concat, List.getLastD_concat]

end MedianFilter

namespace ChannelFilters

/-- The filters of a node that has taken so many readings. -/
def after (readings : List Reading) : ChannelFilters :=
  readings.foldl push zero

theorem after_concat (readings : List Reading) (reading : Reading) :
    after (readings ++ [reading]) = (after readings).push reading := by
  rw [after, List.foldl_append]
  rfl

/-- The values one channel contributed to the readings. -/
def ofChannel (channel : Fin channelCount) (readings : List Reading) : List UInt16 :=
  readings.map (·[channel])

/-- Every channel smoothed on its own, at the last of the readings. -/
def smoothed (readings : List Reading) : Reading :=
  Vector.ofFn fun channel => MedianFilter.smoothed samplingHalf (ofChannel channel readings)

theorem filter_after (readings : List Reading) (channel : Fin channelCount) :
    (after readings).filters[channel] = (MedianFilter.zero.pushAll (ofChannel channel readings)).2 := by
  induction readings using List.reverseRecOn with
  | nil => simp [after, zero, ofChannel, MedianFilter.pushAll]
  | append_singleton earlier last ih =>
    rw [after_concat, ofChannel, List.map_append, List.map_singleton,
      MedianFilter.pushAll_concat, ← ofChannel, ← ih, push]
    simp only [Fin.getElem_fin, Vector.getElem_zipWith]

/-- The medians taken from a new reading mix no channels: each is what a fresh filter gives that is fed
the readings of this channel only. -/
theorem medians_after (readings : List Reading) (reading : Reading) :
    (after readings).medians reading = smoothed (readings ++ [reading]) := by
  ext channel hChannel
  rw [smoothed, Vector.getElem_ofFn, ofChannel, List.map_append, List.map_singleton,
    MedianFilter.smoothed_concat, medians, Vector.getElem_zipWith]
  have hFilter := filter_after readings ⟨channel, hChannel⟩
  simp only [Fin.getElem_fin] at hFilter
  rw [hFilter]
  rfl

end ChannelFilters

end Telemetry
