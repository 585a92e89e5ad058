import Telemetry.Calibration.Basic
import Telemetry.Proofs.Checked

/-! Thresholds between the extremes: no word overflows on the way to them, they rise with the percentage from minimum
to maximum, and the readings above them are those whose bits are set. -/
namespace Telemetry

theorem not_thresholdUnset_lt (reading : UInt16) : ¬ thresholdUnset < reading :=
  UInt16.not_lt.mpr (UInt16.le_iff_toNat_le.mpr (Nat.le_of_lt_succ reading.toNat_lt))

theorem clampPercent_of_hundred_le {percent : UInt8} (h : 100 ≤ percent) : clampPercent percent = 100 := by
  rw [clampPercent]
  split
  · rename_i hBelow
    exact UInt8.le_antisymm hBelow h
  · rfl

theorem toNat_clampPercent (percent : UInt8) : (clampPercent percent).toNat = min percent.toNat 100 := by
  by_cases h : percent ≤ 100
  · rw [clampPercent_of_le h]
    exact (Nat.min_eq_left (UInt8.le_iff_toNat_le.mp h)).symm
  · have hAbove : 100 ≤ percent := UInt8.le_of_lt (UInt8.not_le.mp h)
    rw [clampPercent_of_hundred_le hAbove]
    exact (Nat.min_eq_right (UInt8.le_iff_toNat_le.mp hAbove)).symm

theorem toNat_clampPercent_le (percent : UInt8) : (clampPercent percent).toNat ≤ 100 := by
  rw [toNat_clampPercent]
  exact Nat.min_le_right _ _

theorem clampPercent_mono {percent higher : UInt8} (h : percent ≤ higher) :
    clampPercent percent ≤ clampPercent higher := by
  have hPercent := UInt8.le_iff_toNat_le.mp h
  rw [UInt8.le_iff_toNat_le, toNat_clampPercent, toNat_clampPercent]
  omega

namespace ChannelCalibration

/-- The way from minimum to maximum that a percentage covers, rounded down. -/
def span (channel : ChannelCalibration) (percent : UInt8) : Nat :=
  (channel.max.toNat - channel.min.toNat) * (clampPercent percent).toNat / 100

/-- The threshold worked out in words of 16 and 32 bits, every step of it checked. -/
def checkedThresholdAt (channel : ChannelCalibration) (percent : UInt8) : Option UInt16 :=
  if channel.min ≤ channel.max then do
    let spread ← Checked.sub channel.max.toBitVec channel.min.toBitVec
    let scaled ← Checked.mul (spread.setWidth 32) ((clampPercent percent).toBitVec.setWidth 32)
    let span ← Checked.narrow 16 (scaled / 100)
    let threshold ← Checked.add channel.min.toBitVec span
    some (.ofBitVec threshold)
  else some thresholdUnset

variable {channel : ChannelCalibration} {percent higher : UInt8}

theorem span_le (channel : ChannelCalibration) (percent : UInt8) :
    channel.span percent ≤ channel.max.toNat - channel.min.toNat := by
  apply Nat.div_le_of_le_mul
  rw [Nat.mul_comm]
  exact Nat.mul_le_mul_right _ (toNat_clampPercent_le percent)

theorem span_mono (channel : ChannelCalibration) (h : percent ≤ higher) :
    channel.span percent ≤ channel.span higher := by
  apply Nat.div_le_div_right
  apply Nat.mul_le_mul_left
  exact UInt8.le_iff_toNat_le.mp (clampPercent_mono h)

theorem span_zero (channel : ChannelCalibration) : channel.span 0 = 0 :=
  Nat.zero_div 100

theorem span_of_hundred_le (channel : ChannelCalibration) (h : 100 ≤ percent) :
    channel.span percent = channel.max.toNat - channel.min.toNat := by
  rw [span, clampPercent_of_hundred_le h]
  exact Nat.mul_div_cancel _ (by decide)

theorem toNat_thresholdAt (h : channel.min ≤ channel.max) (percent : UInt8) :
    (channel.thresholdAt percent).toNat = channel.min.toNat + channel.span percent := by
  have hOrder := UInt16.le_iff_toNat_le.mp h
  have hMax := channel.max.toNat_lt
  have hSpan := channel.span_le percent
  have hDirect : (channel.max - channel.min).toNat * (clampPercent percent).toNat / 100 = channel.span percent := by
    rw [UInt16.toNat_sub_of_le _ _ h, span]
  rw [thresholdAt, if_pos h]
  simp only [hDirect]
  rw [UInt16.toNat_add, UInt16.toNat_ofNat_of_lt' (by change _ < 65536; omega)]
  exact Nat.mod_eq_of_lt (by omega)

theorem thresholdAt_of_max_lt (h : channel.max < channel.min) (percent : UInt8) :
    channel.thresholdAt percent = thresholdUnset :=
  if_neg (UInt16.not_le.mpr h)

theorem min_le_thresholdAt (h : channel.min ≤ channel.max) (percent : UInt8) :
    channel.min ≤ channel.thresholdAt percent := by
  rw [UInt16.le_iff_toNat_le, toNat_thresholdAt h]
  exact Nat.le_add_right _ _

theorem thresholdAt_le_max (h : channel.min ≤ channel.max) (percent : UInt8) :
    channel.thresholdAt percent ≤ channel.max := by
  have hOrder := UInt16.le_iff_toNat_le.mp h
  have hSpan := channel.span_le percent
  rw [UInt16.le_iff_toNat_le, toNat_thresholdAt h]
  omega

theorem thresholdAt_mono (channel : ChannelCalibration) (h : percent ≤ higher) :
    channel.thresholdAt percent ≤ channel.thresholdAt higher := by
  by_cases hOrder : channel.min ≤ channel.max
  · rw [UInt16.le_iff_toNat_le, toNat_thresholdAt hOrder, toNat_thresholdAt hOrder]
    exact Nat.add_le_add_left (channel.span_mono h) _
  · have hNone := UInt16.not_le.mp hOrder
    rw [thresholdAt_of_max_lt hNone, thresholdAt_of_max_lt hNone]
    exact UInt16.le_refl _

theorem thresholdAt_zero (h : channel.min ≤ channel.max) : channel.thresholdAt 0 = channel.min := by
  apply UInt16.toNat_inj.mp
  rw [toNat_thresholdAt h, span_zero, Nat.add_zero]

theorem thresholdAt_of_hundred_le (h : channel.min ≤ channel.max) (hPercent : 100 ≤ percent) :
    channel.thresholdAt percent = channel.max := by
  have hOrder := UInt16.le_iff_toNat_le.mp h
  apply UInt16.toNat_inj.mp
  rw [toNat_thresholdAt h, span_of_hundred_le channel hPercent]
  omega

/-- No step of the calculation overflows, whatever the extremes and the percentage. -/
theorem checkedThresholdAt_eq (channel : ChannelCalibration) (percent : UInt8) :
    channel.checkedThresholdAt percent = some (channel.thresholdAt percent) := by
  rw [checkedThresholdAt]
  split
  · rename_i h
    have hOrder := UInt16.le_iff_toNat_le.mp h
    have hMax : channel.max.toNat < 65536 := channel.max.toNat_lt
    have hLe := channel.span_le percent
    obtain ⟨spread, hSub, hSpread⟩ := Checked.exists_sub (a := channel.max.toBitVec) (b := channel.min.toBitVec)
      (by simpa [BitVec.usubOverflow] using hOrder)
    have hWide : (spread.setWidth 32).toNat = channel.max.toNat - channel.min.toNat := by
      rw [BitVec.toNat_setWidth_of_le (by decide), hSpread]
      rfl
    have hFactor : ((clampPercent percent).toBitVec.setWidth 32).toNat = (clampPercent percent).toNat := by
      rw [BitVec.toNat_setWidth_of_le (by decide)]
      rfl
    have hProduct : (channel.max.toNat - channel.min.toNat) * (clampPercent percent).toNat ≤ 65536 * 100 :=
      Nat.mul_le_mul (by omega) (toNat_clampPercent_le percent)
    obtain ⟨scaled, hMul, hScaled⟩ := Checked.exists_mul (a := spread.setWidth 32)
      (b := (clampPercent percent).toBitVec.setWidth 32)
      (by simp only [BitVec.umulOverflow, hWide, hFactor, decide_eq_true_eq]; omega)
    have hQuotient : (scaled / 100).toNat = channel.span percent := by
      rw [BitVec.toNat_udiv, hScaled, hWide, hFactor]
      rfl
    obtain ⟨span, hNarrow, hSpan⟩ := Checked.exists_narrow 16 (a := scaled / 100)
      (by rw [BitVec.toNat_setWidth, Nat.mod_eq_of_lt (by omega)])
    have hSum : channel.min.toBitVec.toNat + span.toNat = channel.min.toNat + channel.span percent := by
      rw [hSpan, hQuotient]
      rfl
    obtain ⟨threshold, hAdd, hThreshold⟩ := Checked.exists_add (a := channel.min.toBitVec) (b := span)
      (by simp only [BitVec.uaddOverflow, hSum, decide_eq_true_eq]; omega)
    simp only [hSub, hMul, hNarrow, hAdd, Option.bind_eq_bind, Option.bind_some]
    apply congrArg some
    apply UInt16.toNat_inj.mp
    rw [toNat_thresholdAt h, ← hSum, ← hThreshold]
    rfl
  · rename_i h
    rw [thresholdAt_of_max_lt (UInt16.not_le.mp h)]

end ChannelCalibration

theorem getLsbD_maskOfBits (bits : List Bool) (place : Nat) :
    (maskOfBits bits).toBitVec.getLsbD place = (decide (place < 8) && bits.getD place false) := by
  induction bits generalizing place with
  | nil => simp [maskOfBits]
  | cons bit rest ih =>
    have hFirst : (if bit then 1 else 0 : UInt8).toBitVec.getLsbD place = (decide (place = 0) && bit) := by
      cases bit with
      | false => simp
      | true => simp [BitVec.getLsbD_one]
    have hShift : (maskOfBits rest <<< 1).toBitVec.getLsbD place =
        (decide (place < 8) && !decide (place < 1) && (maskOfBits rest).toBitVec.getLsbD (place - 1)) := by
      rw [UInt8.toBitVec_shiftLeft]
      exact BitVec.getLsbD_shiftLeft (maskOfBits rest).toBitVec 1
    rw [maskOfBits, UInt8.toBitVec_or, BitVec.getLsbD_or, hShift, hFirst, ih]
    cases place with
    | zero => simp
    | succ place =>
      by_cases hFit : place + 1 < 8
      · have hBefore : place < 8 := Nat.lt_of_succ_lt hFit
        simp [hFit, hBefore]
      · simp [hFit]

namespace Calibration

theorem thresholds_computeThresholds (calibration : Calibration) (percent : UInt8) (channel : Fin channelCount) :
    (calibration.computeThresholds percent).thresholds.get channel =
      (calibration.channels.get channel).thresholdAt percent := by
  have hThreshold : (calibration.computeThresholds percent).thresholds.get channel =
      ((calibration.computeThresholds percent).channels.get channel).threshold :=
    Vector.getElem_map _ channel.isLt
  have hChannel : (calibration.computeThresholds percent).channels.get channel =
      (calibration.channels.get channel).withThresholdAt percent :=
    Vector.getElem_map _ channel.isLt
  rw [hThreshold, hChannel]
  rfl

theorem testBit_classify (calibration : Calibration) (data : Reading) (place : Nat) :
    (calibration.classify data).toNat.testBit place = true ↔
      ∃ h : place < channelCount, calibration.thresholds[place] < data[place] := by
  have hBits : (calibration.classify data).toNat.testBit place =
      (calibration.classify data).toBitVec.getLsbD place := BitVec.testBit_toNat _
  rw [hBits, classify, getLsbD_maskOfBits]
  by_cases hPlace : place < channelCount
  · have hFit : place < 8 := Nat.lt_of_lt_of_le hPlace (by decide)
    simp [hPlace, hFit, ChannelCalibration.exceeds, thresholds]
  · simp [hPlace]

/-- The mask has a bit set for each channel whose reading is above the channel's threshold, and no other. -/
def Marks (calibration : Calibration) (data : Reading) (mask : UInt8) : Prop :=
  ∀ place, mask.toNat.testBit place = true ↔
    ∃ h : place < channelCount, calibration.channels[place].threshold < data[place]

theorem marks_classify (calibration : Calibration) (data : Reading) :
    calibration.Marks data (calibration.classify data) := by
  intro place
  simpa [thresholds] using testBit_classify calibration data place

section Bits

variable {calibration : Calibration} {data : Reading}

theorem thresholds_mono {percent higher : UInt8} (h : percent ≤ higher) (channel : Fin channelCount) :
    (calibration.computeThresholds percent).thresholds.get channel ≤
      (calibration.computeThresholds higher).thresholds.get channel := by
  rw [thresholds_computeThresholds, thresholds_computeThresholds]
  exact ChannelCalibration.thresholdAt_mono _ h

theorem testBit_classify_of_le {percent higher : UInt8} (h : percent ≤ higher) {place : Nat}
    (hSet : ((calibration.computeThresholds higher).classify data).toNat.testBit place = true) :
    ((calibration.computeThresholds percent).classify data).toNat.testBit place = true := by
  obtain ⟨hPlace, hAbove⟩ := (testBit_classify _ data place).mp hSet
  apply (testBit_classify _ data place).mpr
  exact ⟨hPlace, UInt16.lt_of_le_of_lt (thresholds_mono h ⟨place, hPlace⟩) hAbove⟩

theorem testBit_classify_of_unset {channel : Fin channelCount}
    (hUnset : calibration.thresholds.get channel = thresholdUnset) :
    (calibration.classify data).toNat.testBit channel = false := by
  apply Bool.eq_false_iff.mpr
  intro hSet
  obtain ⟨_, hAbove⟩ := (testBit_classify calibration data channel).mp hSet
  change calibration.thresholds.get channel < data.get channel at hAbove
  rw [hUnset] at hAbove
  exact not_thresholdUnset_lt _ hAbove

end Bits

/-- Every threshold is worked out without overflow. It lies between the extremes, at the minimum for no percentage and
at the maximum for a hundred or more, and rises with the percentage, so that a higher one never sets a bit more. Bits
stand for the channels whose reading is above the threshold, and for nothing else; no reading is above one unset. -/
theorem thresholds_classify (calibration : Calibration) (percent : UInt8) :
    (∀ channel : Fin channelCount,
      let observed := calibration.channels.get channel
      let threshold := (calibration.computeThresholds percent).thresholds.get channel
      observed.checkedThresholdAt percent = some threshold ∧
      (observed.max < observed.min → threshold = thresholdUnset) ∧
      (observed.min ≤ observed.max →
        observed.min ≤ threshold ∧ threshold ≤ observed.max ∧
        (percent = 0 → threshold = observed.min) ∧ (100 ≤ percent → threshold = observed.max) ∧
        ∀ higher, percent ≤ higher →
          threshold ≤ (calibration.computeThresholds higher).thresholds.get channel)) ∧
    ∀ data : Reading,
      (∀ higher, percent ≤ higher → ∀ place,
        ((calibration.computeThresholds higher).classify data).toNat.testBit place = true →
          ((calibration.computeThresholds percent).classify data).toNat.testBit place = true) ∧
      (∀ place, (calibration.classify data).toNat.testBit place = true ↔
        ∃ h : place < channelCount, calibration.thresholds[place] < data[place]) ∧
      ∀ channel : Fin channelCount, calibration.thresholds.get channel = thresholdUnset →
        (calibration.classify data).toNat.testBit channel = false := by
  constructor
  · intro channel observed threshold
    have hThreshold : threshold = observed.thresholdAt percent :=
      thresholds_computeThresholds calibration percent channel
    refine ⟨hThreshold ▸ observed.checkedThresholdAt_eq percent, ?_, ?_⟩
    · intro hNone
      rw [hThreshold, ChannelCalibration.thresholdAt_of_max_lt hNone]
    · intro hOrder
      refine ⟨hThreshold ▸ ChannelCalibration.min_le_thresholdAt hOrder percent,
        hThreshold ▸ ChannelCalibration.thresholdAt_le_max hOrder percent, ?_, ?_, fun _ h => thresholds_mono h channel⟩
      · rintro rfl
        rw [hThreshold, ChannelCalibration.thresholdAt_zero hOrder]
      · intro hHundred
        rw [hThreshold, ChannelCalibration.thresholdAt_of_hundred_le hOrder hHundred]
  · intro data
    refine ⟨?_, testBit_classify calibration data, fun _ hUnset => testBit_classify_of_unset hUnset⟩
    intro higher h place hSet
    exact testBit_classify_of_le h hSet

/-- Extremes at both ends of the range, an ordinary pair, a channel that has none, and one whose extremes are equal. -/
theorem thresholds_classify_trial :
    let calibration : Calibration := ⟨#v[⟨0xFFFF, 0, 0⟩, ⟨300, 100, 0⟩, ⟨500, 0xFFFF, 0⟩, ⟨7, 7, 0⟩]⟩
    let data : Reading := #v[30000, 200, 0xFFFF, 8]
    let low := calibration.computeThresholds 33
    let high := calibration.computeThresholds 150
    low.thresholds = #v[21626, 166, 0xFFFF, 7] ∧ low.classify data = 0b1011 ∧ high.classify data = 0b1000 ∧
    calibration.channels[2].max < calibration.channels[2].min ∧ low.thresholds[2] = thresholdUnset ∧
    calibration.channels[1].min ≤ calibration.channels[1].max ∧ high.thresholds[1] = 300 ∧
    low.thresholds[1] ≤ high.thresholds[1] ∧
    (high.classify data).toNat.testBit 3 = true ∧ (low.classify data).toNat.testBit 3 = true := by
  intro calibration data low high
  obtain ⟨hLow, hBits⟩ := thresholds_classify calibration 33
  have hHigh := (thresholds_classify calibration 150).1
  have hNone : calibration.channels[2].max < calibration.channels[2].min := by decide
  have hOrder : calibration.channels[1].min ≤ calibration.channels[1].max := by decide
  have hSet : (high.classify data).toNat.testBit 3 = true := by decide +kernel
  obtain ⟨-, -, -, hTop, -⟩ := (hHigh 1).2.2 hOrder
  obtain ⟨-, -, -, -, hRising⟩ := (hLow 1).2.2 hOrder
  exact ⟨by decide +kernel, by decide +kernel, by decide +kernel, hNone, (hLow 2).2.1 hNone, hOrder,
    hTop (by decide), hRising 150 (by decide), hSet, (hBits data).1 150 (by decide) 3 hSet⟩

end Calibration

end Telemetry
