import Telemetry.Proofs.Filter.Channels
import Telemetry.Proofs.Filter.Sorting

/-! The median filter as a recursion in time: each median is an order statistic of the medians and the
readings before it, and the window shows which of them the filter still knows. -/
namespace Telemetry.MedianFilter

open MergeSort (IsNthSmallest)

/-- The value at a time. Times count from one; there is zero before the first and after the last. -/
def valueAt (values : List UInt16) (time : Int) : UInt16 :=
  if time ≤ 0 then 0 else values.getD (time - 1).toNat 0

/-- So many values from a time on, earliest first. -/
def stretch (values : List UInt16) (start : Int) (count : Nat) : List UInt16 :=
  (List.range count).map fun offset : Nat => valueAt values (start + offset)

theorem valueAt_nil (time : Int) : valueAt [] time = 0 := by
  rw [valueAt]
  split
  · rfl
  · rfl

theorem valueAt_append_left {earlier : List UInt16} (later : List UInt16) {time : Int}
    (h : time ≤ earlier.length) : valueAt (earlier ++ later) time = valueAt earlier time := by
  rw [valueAt, valueAt]
  split
  · rfl
  · rw [List.getD_eq_getElem?_getD, List.getElem?_append_left (by omega), ← List.getD_eq_getElem?_getD]

theorem valueAt_concat (values : List UInt16) (value : UInt16) :
    valueAt (values ++ [value]) (values.length + 1) = value := by
  rw [valueAt, if_neg (by omega)]
  simp

@[simp] theorem length_stretch (values : List UInt16) (start : Int) (count : Nat) :
    (stretch values start count).length = count := by
  simp [stretch]

theorem stretch_nil (start : Int) (count : Nat) : stretch [] start count = List.replicate count 0 := by
  simp only [stretch, valueAt_nil, List.map_const', List.length_range]

theorem stretch_append_left {earlier : List UInt16} (later : List UInt16) {start : Int} {count : Nat}
    (h : start + count ≤ earlier.length + 1) :
    stretch (earlier ++ later) start count = stretch earlier start count := by
  apply List.map_congr_left
  intro offset hOffset
  have hBelow := List.mem_range.mp hOffset
  exact valueAt_append_left later (by omega)

theorem stretch_succ (values : List UInt16) (start : Int) (count : Nat) :
    stretch values start (count + 1) = stretch values start count ++ [valueAt values (start + count)] := by
  rw [stretch, List.range_succ, List.map_append]
  rfl

theorem stretch_cons (values : List UInt16) (start : Int) (count : Nat) :
    stretch values start (count + 1) = valueAt values start :: stretch values (start + 1) count := by
  rw [stretch, List.range_succ_eq_map, List.map_cons, List.map_map, stretch]
  congr 1
  · simp
  · apply List.map_congr_left
    intro offset _
    simp only [Function.comp_apply]
    congr 1
    omega

variable {half : Nat}

/-- The medians of a run on a fresh filter. -/
def medians (half : Nat) (values : List UInt16) : List UInt16 :=
  ((zero : MedianFilter half).pushAll values).1

/-- A fresh filter after a run. -/
def after (half : Nat) (values : List UInt16) : MedianFilter half :=
  ((zero : MedianFilter half).pushAll values).2

theorem medians_concat (values : List UInt16) (value : UInt16) :
    medians half (values ++ [value]) = medians half values ++ [(after half values).median value] := by
  rw [medians, pushAll_concat]
  rfl

theorem window_after_concat (values : List UInt16) (value : UInt16) :
    (after half (values ++ [value])).window =
      ((after half values).shifted value).set half ((after half values).median value) := by
  rw [after, pushAll_concat]
  rfl

theorem length_medians (half : Nat) (values : List UInt16) : (medians half values).length = values.length := by
  induction values using List.reverseRecOn with
  | nil => rfl
  | append_singleton values value ih => simp [medians_concat, ih]

private theorem shifted_of_window {values : List UInt16}
    (h : (after half values).window = stretch (medians half values) (values.length - half) (half + 1) ++
      stretch values (values.length - half + 1) half) (value : UInt16) :
    (after half values).shifted value =
      stretch (medians half (values ++ [value])) (values.length - half + 1) half ++
        stretch (values ++ [value]) (values.length - half + 1) (half + 1) := by
  have hMedians : stretch (medians half (values ++ [value])) (values.length - half + 1) half =
      stretch (medians half values) (values.length - half + 1) half := by
    rw [medians_concat]
    refine stretch_append_left _ ?_
    rw [length_medians]
    omega
  have hReadings : stretch (values ++ [value]) (values.length - half + 1) (half + 1) =
      stretch values (values.length - half + 1) half ++ [value] := by
    have hNow : (values.length : Int) - half + 1 + half = values.length + 1 := by omega
    rw [stretch_succ, stretch_append_left _ (by omega), hNow, valueAt_concat]
  rw [shifted, h, stretch_cons, hMedians, hReadings, List.cons_append, List.tail_cons, List.append_assoc]

/-- The window holds the latest `half + 1` medians and, behind them, the latest `half` readings. -/
theorem window_after (values : List UInt16) :
    (after half values).window = stretch (medians half values) (values.length - half) (half + 1) ++
      stretch values (values.length - half + 1) half := by
  induction values using List.reverseRecOn with
  | nil =>
    change List.replicate (2 * half + 1) 0 = stretch [] _ _ ++ stretch [] _ _
    rw [stretch_nil, stretch_nil, List.replicate_append_replicate]
    congr 1
    omega
  | append_singleton values value ih =>
    have hStart : ((values ++ [value]).length : Int) - half = values.length - half + 1 := by
      rw [List.length_append, List.length_singleton]
      omega
    have hNow : (values.length : Int) - half + 1 + half = (medians half values).length + 1 := by
      rw [length_medians]
      omega
    have hMedian : valueAt (medians half (values ++ [value])) (values.length - half + 1 + half) =
        (after half values).median value := by
      rw [hNow, medians_concat, valueAt_concat]
    rw [hStart, window_after_concat, shifted_of_window ih, stretch_cons _ _ half,
      List.set_append_right _ _ (by simp), stretch_succ, hMedian]
    simp

/-- A further reading meets the latest `half` medians and, itself among them, the latest `half + 1` readings. -/
theorem shifted_after (values : List UInt16) (value : UInt16) :
    (after half values).shifted value =
      stretch (medians half (values ++ [value])) (values.length - half + 1) half ++
        stretch (values ++ [value]) (values.length - half + 1) (half + 1) :=
  shifted_of_window (window_after values) value

theorem isNthSmallest_median (filter : MedianFilter half) (value : UInt16) :
    IsNthSmallest (half + 1) (filter.shifted value) (filter.median value) := by
  apply MergeSort.isNthSmallest_sorted
  rw [shifted, List.length_append, List.length_tail, filter.length_window]
  simp only [List.length_singleton]
  omega

theorem exists_medians_append (half : Nat) (earlier later : List UInt16) :
    ∃ rest, medians half (earlier ++ later) = medians half earlier ++ rest := by
  induction later using List.reverseRecOn with
  | nil => exact ⟨[], by simp⟩
  | append_singleton later value ih =>
    obtain ⟨rest, hRest⟩ := ih
    refine ⟨rest ++ [(after half (earlier ++ later)).median value], ?_⟩
    rw [← List.append_assoc, medians_concat, hRest, List.append_assoc]

/-- The median that a reading brings depends on no later reading. -/
theorem getElem?_medians (half : Nat) (earlier : List UInt16) (value : UInt16) (later : List UInt16) :
    (medians half (earlier ++ value :: later))[earlier.length]? = some ((after half earlier).median value) := by
  obtain ⟨rest, hRest⟩ := exists_medians_append half (earlier ++ [value]) later
  rw [← List.append_cons, medians_concat, ← List.append_cons] at hRest
  rw [hRest, ← length_medians half earlier, List.getElem?_append_right (Nat.le_refl _), Nat.sub_self]
  rfl

/-- A fresh filter is exactly a recursion, for every width of the window and every run of readings: each reading
brings one median, the middle one of the `half` medians before it and the `half + 1` readings up to its own. The
window then holds these medians with the new one, and these readings without the oldest. -/
theorem medians_recursive (half : Nat) (values : List UInt16) {time : Nat} (hFirst : 1 ≤ time)
    (hLast : time ≤ values.length) :
    (medians half values).length = values.length ∧
    IsNthSmallest (half + 1)
      (stretch (medians half values) (time - half) half ++ stretch values (time - half) (half + 1))
      (valueAt (medians half values) time) ∧
    (after half (values.take time)).window =
      stretch (medians half values) (time - half) (half + 1) ++ stretch values (time - half + 1) half := by
  obtain ⟨earlier, value, later, rfl, rfl⟩ : ∃ earlier value later,
      values = (earlier ++ [value]) ++ later ∧ time = earlier.length + 1 := by
    refine ⟨values.take (time - 1), values[time - 1], values.drop time, ?_, ?_⟩
    · rw [← List.take_succ_eq_append_getElem, Nat.sub_add_cancel hFirst, List.take_append_drop]
    · rw [List.length_take]
      omega
  obtain ⟨rest, hMedians⟩ := exists_medians_append half (earlier ++ [value]) later
  have hCount : (medians half (earlier ++ [value])).length = earlier.length + 1 := by
    rw [length_medians, List.length_append, List.length_singleton]
  have hLength : (earlier ++ [value]).length = earlier.length + 1 := List.length_append
  have hNow : valueAt (medians half (earlier ++ [value])) (earlier.length + 1) =
      (after half earlier).median value := by
    rw [medians_concat, ← length_medians half earlier, valueAt_concat]
  have hStart : (earlier.length : Int) + 1 - half = earlier.length - half + 1 := by omega
  refine ⟨length_medians _ _, ?_, ?_⟩
  · rw [hMedians, Int.natCast_succ, valueAt_append_left rest (by omega), hNow, hStart,
      stretch_append_left rest (by omega), stretch_append_left later (by omega),
      ← shifted_of_window (window_after earlier)]
    exact isNthSmallest_median _ _
  · rw [hMedians, List.take_left' hLength, window_after, hLength, stretch_append_left rest (by omega),
      stretch_append_left later (by omega)]

/-- A window of three readings: the median of the second reading is one of the values that the third is
compared with. -/
theorem medians_recursive_third :
    let readings : List UInt16 := [7, 3, 9, 1]
    1 ≤ 3 ∧ 3 ≤ readings.length ∧ medians 1 readings = [0, 3, 3, 3] ∧
    IsNthSmallest 2 [3, 3, 9] 3 ∧ (after 1 (readings.take 3)).window = [3, 3, 9] := by
  intro readings
  have hMedians : medians 1 readings = [0, 3, 3, 3] := by decide +kernel
  obtain ⟨-, hThird, hWindow⟩ := medians_recursive 1 readings (by decide : 1 ≤ 3) (by decide)
  rw [hMedians] at hThird hWindow
  exact ⟨by decide, by decide, hMedians, hThird, hWindow⟩

end Telemetry.MedianFilter
