import Telemetry.Proofs.Calibration.Thresholds
import Telemetry.Proofs.Records

/-! A calibration in closed form: the maximum is the largest reading, but the minimum is only that of the readings
which were no record when they came. -/
namespace Telemetry

namespace ChannelCalibration

theorem max_observe (channel : ChannelCalibration) (value : UInt16) :
    (channel.observe value).max = Max.max channel.max value := by
  rw [observe]
  split
  · rename_i hRecord
    exact (Std.LawfulOrderLeftLeaningMax.max_eq_right _ _ (UInt16.not_le.mpr hRecord)).symm
  · rename_i hBelow
    rw [Std.LawfulOrderLeftLeaningMax.max_eq_left _ _ (UInt16.not_lt.mp hBelow)]
    split
    · rfl
    · rfl

theorem min_observe (channel : ChannelCalibration) (value : UInt16) :
    (channel.observe value).min = if value ≤ channel.max then Min.min channel.min value else channel.min := by
  rw [observe]
  split
  · rename_i hRecord
    rw [if_neg (UInt16.not_le.mpr hRecord)]
  · rename_i hBelow
    rw [if_pos (UInt16.not_lt.mp hBelow)]
    split
    · rename_i hLower
      exact (Std.LawfulOrderLeftLeaningMin.min_eq_right _ _ (UInt16.not_le.mpr hLower)).symm
    · rename_i hUpper
      exact (Std.LawfulOrderLeftLeaningMin.min_eq_left _ _ (UInt16.not_lt.mp hUpper)).symm

/-- What a fresh channel has seen of a series of readings. -/
def ofReadings (values : List UInt16) : ChannelCalibration :=
  values.foldl observe {}

theorem ofReadings_concat (values : List UInt16) (value : UInt16) :
    ofReadings (values ++ [value]) = (ofReadings values).observe value :=
  List.foldl_append

theorem max_ofReadings (values : List UInt16) : (ofReadings values).max = largest values := by
  induction values using List.reverseRecOn with
  | nil => rfl
  | append_singleton values value ih => rw [ofReadings_concat, max_observe, ih, largest_concat]

theorem min_ofReadings (values : List UInt16) : (ofReadings values).min = smallest (nonRecords values) := by
  induction values using List.reverseRecOn with
  | nil => rfl
  | append_singleton values value ih =>
    rw [ofReadings_concat, min_observe, ih, max_ofReadings, nonRecords_concat]
    split
    · rw [smallest_concat]
    · rw [List.append_nil]

theorem max_lt_min_iff (values : List UInt16) :
    (ofReadings values).max < (ofReadings values).min ↔
      (0 :: values).Pairwise (· < ·) ∧ (ofReadings values).max < 0xFFFF := by
  rw [max_ofReadings, min_ofReadings, ← nonRecords_eq_nil_iff]
  constructor
  · intro hBelow
    have hNone : nonRecords values = [] := by
      apply List.eq_nil_iff_forall_not_mem.mpr
      intro value hValue
      have hLe := UInt16.le_trans (smallest_le hValue) (le_largest (mem_of_mem_nonRecords hValue))
      exact UInt16.not_lt.mpr hLe hBelow
    rw [hNone] at hBelow
    exact ⟨hNone, hBelow⟩
  · rintro ⟨hNone, hBelow⟩
    rw [hNone]
    exact hBelow

end ChannelCalibration

namespace Calibration

open ChannelCalibration (ofReadings)

theorem channel_foldl_observe (readings : List Reading) (channel : Fin channelCount) :
    (readings.foldl observe reset).channels.get channel = ofReadings (readings.map (·.get channel)) := by
  induction readings using List.reverseRecOn with
  | nil => exact Vector.getElem_replicate channel.isLt
  | append_singleton readings reading ih =>
    rw [List.foldl_append, List.map_append, List.map_singleton, ChannelCalibration.ofReadings_concat, ← ih]
    exact Vector.getElem_zipWith channel.isLt

/-- What any series of readings, observed from the start, leaves of a channel. The minimum knows only the readings that
did not raise the maximum, so a channel is left without a way from minimum to maximum, and its threshold unset, exactly
if its readings rose strictly from above zero and stayed below the end of the range. -/
theorem observed_closed_form (readings : List Reading) (channel : Fin channelCount) (percent : UInt8) :
    let values := readings.map (·.get channel)
    let calibration := readings.foldl observe reset
    let observed := calibration.channels.get channel
    let threshold := (calibration.computeThresholds percent).thresholds.get channel
    observed.max = largest values ∧ observed.min = smallest (nonRecords values) ∧
    (observed.max < observed.min ↔ (0 :: values).Pairwise (· < ·) ∧ observed.max < 0xFFFF) ∧
    threshold.toNat =
      (if (0 :: values).Pairwise (· < ·) ∧ observed.max < 0xFFFF then thresholdUnset.toNat
        else observed.min.toNat + observed.span percent) ∧
    (¬ observed.max < observed.min →
      observed.min ≤ observed.max ∧ observed.min ≤ threshold ∧ threshold ≤ observed.max) := by
  intro values calibration observed threshold
  have hObserved : observed = ofReadings values := channel_foldl_observe readings channel
  have hThreshold : threshold = observed.thresholdAt percent :=
    thresholds_computeThresholds calibration percent channel
  have hRecords : observed.max < observed.min ↔ (0 :: values).Pairwise (· < ·) ∧ observed.max < 0xFFFF := by
    rw [hObserved]
    exact ChannelCalibration.max_lt_min_iff values
  refine ⟨hObserved ▸ ChannelCalibration.max_ofReadings values, hObserved ▸ ChannelCalibration.min_ofReadings values,
    hRecords, ?_, ?_⟩
  · rw [hThreshold]
    split
    · rename_i hRising
      rw [ChannelCalibration.thresholdAt_of_max_lt (hRecords.mpr hRising)]
    · rename_i hOther
      exact ChannelCalibration.toNat_thresholdAt (UInt16.not_lt.mp (hRecords.not.mpr hOther)) percent
  · intro hOther
    have hOrder := UInt16.not_lt.mp hOther
    exact ⟨hOrder, hThreshold ▸ ChannelCalibration.min_le_thresholdAt hOrder percent,
      hThreshold ▸ ChannelCalibration.thresholdAt_le_max hOrder percent⟩

/-- A rising channel, a constant one, one that falls and rises, and one that rises to the end of the range. -/
theorem observed_closed_form_trial :
    let readings : List Reading := [#v[1, 5, 9, 1], #v[2, 5, 4, 700], #v[7, 5, 6, 0xFFFF]]
    let calibration := readings.foldl observe reset
    let thresholds := (calibration.computeThresholds 50).thresholds
    calibration.maxima = #v[7, 5, 9, 0xFFFF] ∧ calibration.minima = #v[0xFFFF, 5, 4, 0xFFFF] ∧
    calibration.channels[0].max < calibration.channels[0].min ∧ thresholds[0] = thresholdUnset ∧
    ¬ calibration.channels[2].max < calibration.channels[2].min ∧
    calibration.channels[2].min ≤ thresholds[2] ∧ thresholds[2] ≤ calibration.channels[2].max := by
  intro readings calibration thresholds
  have hNone : calibration.channels[0].max < calibration.channels[0].min := by decide +kernel
  have hOther : ¬ calibration.channels[2].max < calibration.channels[2].min := by decide +kernel
  obtain ⟨-, -, hRising, hUnset, -⟩ := observed_closed_form readings 0 50
  rw [if_pos (hRising.mp hNone)] at hUnset
  obtain ⟨-, hLow, hHigh⟩ := (observed_closed_form readings 2 50).2.2.2.2 hOther
  exact ⟨by decide +kernel, by decide +kernel, hNone, UInt16.toNat_inj.mp hUnset, hOther, hLow, hHigh⟩

end Calibration

end Telemetry
