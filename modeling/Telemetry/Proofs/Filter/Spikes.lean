import Mathlib.Tactic.Push
import Telemetry.Proofs.Filter.Recursion
import Telemetry.Proofs.Records

/-! What a median filter keeps out: a median lies among the latest readings, however old the medians in the window
are, and a level is left only after so many other readings in a row that they are the greater part of the window. -/
namespace Telemetry

namespace MergeSort

/-- With `n` other values beside them, some of the values are not above the one that comes next in order. -/
theorem IsNthSmallest.exists_le {others values : List UInt16} {value : UInt16}
    (h : IsNthSmallest (others.length + 1) (others ++ values) value) : ∃ low ∈ values, low ≤ value := by
  have hCount := h.2
  rw [List.countP_append] at hCount
  have hOthers : others.countP (· ≤ value) ≤ others.length := List.countP_le_length
  have hSome : 0 < values.countP (· ≤ value) := by omega
  obtain ⟨low, hLow, hLe⟩ := List.countP_pos_iff.mp hSome
  exact ⟨low, hLow, of_decide_eq_true hLe⟩

/-- Of `n` values, whatever stands beside them, some are not below the one that comes `n`-th in order. -/
theorem IsNthSmallest.exists_ge {others values : List UInt16} {value : UInt16}
    (h : IsNthSmallest values.length (others ++ values) value) : ∃ high ∈ values, value ≤ high := by
  by_contra! hBelow
  have hAll : values.countP (· < value) = values.length := by
    apply List.countP_eq_length.mpr
    intro high hHigh
    exact decide_eq_true (UInt16.not_le.mp (hBelow high hHigh))
  have hCount := h.1
  rw [List.countP_append, hAll] at hCount
  omega

/-- A value that more than half of the places hold is the middle one. -/
theorem isNthSmallest_of_majority {half : Nat} {values : List UInt16} {level : UInt16}
    (hLength : values.length = 2 * half + 1) (hCount : half + 1 ≤ values.count level) :
    IsNthSmallest (half + 1) values level := by
  have hOthers := values.length_eq_countP_add_countP (· == level)
  have hBelow : values.countP (· < level) ≤ values.countP (fun value => ¬ (value == level) = true) := by
    apply List.countP_mono_left
    intro value _ hLess
    have hNe : value ≠ level := UInt16.ne_of_lt (of_decide_eq_true hLess)
    simpa using hNe
  have hUpTo : values.count level ≤ values.countP (· ≤ level) := by
    apply List.countP_mono_left
    intro value _ hEqual
    exact decide_eq_true (UInt16.le_of_eq (eq_of_beq hEqual))
  rw [List.count] at hCount hUpTo
  exact ⟨by omega, by omega⟩

end MergeSort

namespace MedianFilter

variable {half : Nat}

theorem median_of_majority (filter : MedianFilter half) {value level : UInt16}
    (h : half + 1 ≤ (filter.shifted value).count level) : filter.median value = level := by
  have hLength : (filter.shifted value).length = 2 * half + 1 := by
    simp [shifted, filter.length_window]
  exact (isNthSmallest_median filter value).unique (MergeSort.isNthSmallest_of_majority hLength h)

/-- Any so many values in a row have the level among them. -/
def Recurring (level : UInt16) (span : Nat) (values : List UInt16) : Prop :=
  ∀ start, start + span ≤ values.length → level ∈ (values.drop start).take span

instance Recurring.decidable (level : UInt16) (span : Nat) (values : List UInt16) :
    Decidable (Recurring level span values) :=
  decidable_of_iff
    (∀ start < values.length + 1, start + span ≤ values.length → level ∈ (values.drop start).take span)
    ⟨fun h start hStart => h start (by omega) hStart, fun h start _ => h start⟩

namespace Recurring

variable {level : UInt16} {span : Nat} {values : List UInt16}

theorem mem_take (h : Recurring level span values) (hLength : span ≤ values.length) : level ∈ values.take span := by
  simpa using h 0 (by omega)

theorem tail (h : Recurring level (span + 1) values) : Recurring level (span + 1) values.tail := by
  intro start hStart
  rw [List.length_tail] at hStart
  rw [← List.drop_one, List.drop_drop, Nat.add_comm 1 start]
  exact h (start + 1) (by omega)

/-- Behind a stretch at the level, the first values need not have it among them at once. -/
theorem replicate_append (h : Recurring level (span + 1) values) :
    Recurring level (span + 1) (List.replicate span level ++ values) := by
  intro start hStart
  rw [List.length_append, List.length_replicate] at hStart
  by_cases hBefore : start < span
  · obtain ⟨count, hCount⟩ : ∃ count, span - start = count + 1 := ⟨span - start - 1, by omega⟩
    rw [List.drop_append_of_le_length (by simp; omega), List.drop_replicate, hCount, List.replicate_succ,
      List.cons_append, List.take_succ_cons]
    exact List.mem_cons_self
  · obtain ⟨later, rfl⟩ := Nat.exists_eq_add_of_le (Nat.not_lt.mp hBefore)
    have hDrop : (List.replicate span level ++ values).drop (span + later) = values.drop later := by
      rw [← List.drop_drop, List.drop_left' List.length_replicate]
    rw [hDrop]
    exact h later (by omega)

/-- Few other values, wherever they stand, never fill so many places in a row. -/
theorem of_countP_le (h : values.countP (· ≠ level) ≤ span) : Recurring level (span + 1) values := by
  intro start hStart
  by_contra hMissing
  have hAll : ((values.drop start).take (span + 1)).countP (· ≠ level) = span + 1 := by
    have hOther : ∀ value ∈ (values.drop start).take (span + 1), decide (value ≠ level) = true := by
      intro value hValue
      exact decide_eq_true fun hEqual => hMissing (hEqual ▸ hValue)
    rw [List.countP_eq_length.mpr hOther, List.length_take, List.length_drop]
    omega
  have hPart := ((List.take_sublist (span + 1) (values.drop start)).trans
    (List.drop_sublist start values)).countP_le (p := (· ≠ level))
  omega

theorem of_spike {spike : List UInt16} (h : spike.length ≤ span) (level : UInt16) (before behind : Nat) :
    Recurring level (span + 1) (List.replicate before level ++ spike ++ List.replicate behind level) := by
  apply of_countP_le
  have hAround (count : Nat) : (List.replicate count level).countP (· ≠ level) = 0 := by
    simp [List.countP_replicate]
  have hOthers : spike.countP (· ≠ level) ≤ spike.length := List.countP_le_length
  rw [List.countP_append, List.countP_append, hAround, hAround]
  omega

end Recurring

section Level

variable {filter : MedianFilter half} {level value : UInt16} {recent values : List UInt16}

/-- With `half` medians at the level, a single reading at it makes the majority. -/
private theorem push_of_level (hWindow : filter.window = List.replicate (half + 1) level ++ recent)
    (hNow : level ∈ recent ++ [value]) :
    filter.median value = level ∧
    (filter.push value).window = List.replicate (half + 1) level ++ (recent ++ [value]).tail := by
  have hShifted : filter.shifted value = List.replicate half level ++ (recent ++ [value]) := by
    rw [shifted, hWindow, List.replicate_succ, List.cons_append, List.tail_cons, List.append_assoc]
  have hMedian : filter.median value = level := by
    apply filter.median_of_majority
    have hOnce : 0 < (recent ++ [value]).count level := List.count_pos_iff.mpr hNow
    rw [hShifted, List.count_append, List.count_replicate_self]
    omega
  refine ⟨hMedian, ?_⟩
  change (filter.shifted value).set half (filter.median value) = _
  rw [hMedian, hShifted, List.set_append_right _ _ (by simp), List.length_replicate, Nat.sub_self,
    List.replicate_succ', List.append_assoc]
  cases recent with
  | nil => rfl
  | cons => rfl

/-- While the level keeps recurring, the medians in the window stay at it, and so does the next one. -/
theorem pushAll_of_recurring (hWindow : filter.window = List.replicate (half + 1) level ++ recent)
    (hRecurring : Recurring level (half + 1) (recent ++ values)) :
    (filter.pushAll values).1 = List.replicate values.length level := by
  induction values generalizing filter recent with
  | nil => rfl
  | cons value values ih =>
    have hRecent : recent.length = half := by
      have hLength := filter.length_window
      rw [hWindow, List.length_append, List.length_replicate] at hLength
      omega
    have hSplit : recent ++ value :: values = (recent ++ [value]) ++ values := by simp
    -- the first stretch of the series is what the window knows of it, with the new reading
    have hNow : level ∈ recent ++ [value] := by
      have hTake := hRecurring.mem_take (by simp; omega)
      rwa [hSplit, List.take_left' (by simp [hRecent])] at hTake
    have hRest : Recurring level (half + 1) ((recent ++ [value]).tail ++ values) := by
      have hTail := hRecurring.tail
      rwa [hSplit, List.tail_append_of_ne_nil (by simp)] at hTail
    obtain ⟨hMedian, hNext⟩ := push_of_level hWindow hNow
    change filter.median value :: ((filter.push value).pushAll values).1 = _
    rw [ih hNext hRest, hMedian, List.length_cons, List.replicate_succ]

theorem pushAll_of_level (hLevel : ∀ slot ∈ filter.window, slot = level)
    (hRecurring : Recurring level (half + 1) values) :
    (filter.pushAll values).1 = List.replicate values.length level := by
  have hWindow : filter.window = List.replicate (half + 1) level ++ List.replicate half level := by
    rw [List.replicate_append_replicate]
    apply List.eq_replicate_iff.mpr
    refine ⟨?_, hLevel⟩
    rw [filter.length_window]
    omega
  exact pushAll_of_recurring hWindow hRecurring.replicate_append

end Level

/-- The window compares `half` medians, of whatever age, with `half + 1` readings: these cannot all be on one side. -/
theorem median_within (earlier : List UInt16) (reading : UInt16) :
    let recent := stretch (earlier ++ [reading]) (earlier.length - half + 1) (half + 1)
    smallest recent ≤ (after half earlier).median reading ∧ (after half earlier).median reading ≤ largest recent := by
  intro recent
  have hMedian := isNthSmallest_median (after half earlier) reading
  rw [shifted_after] at hMedian
  obtain ⟨low, hLow, hLe⟩ := MergeSort.IsNthSmallest.exists_le (by rwa [length_stretch])
  obtain ⟨high, hHigh, hGe⟩ := MergeSort.IsNthSmallest.exists_ge (by rwa [length_stretch])
  exact ⟨UInt16.le_trans (smallest_le hLow) hLe, UInt16.le_trans hGe (le_largest hHigh)⟩

/-- Every median of a run on a fresh filter lies between the smallest and the largest of the latest `half + 1`
readings, with zeros for those before the first. A filter that holds a level everywhere keeps giving it while every
`half + 1` readings in a row have it among them, in particular through a spike of at most `half`. -/
theorem spikes_kept_out (half : Nat) :
    (∀ (earlier : List UInt16) (reading : UInt16) (later : List UInt16),
      let recent := stretch (earlier ++ [reading]) (earlier.length - half + 1) (half + 1)
      ∃ median, (medians half (earlier ++ reading :: later))[earlier.length]? = some median ∧
        smallest recent ≤ median ∧ median ≤ largest recent) ∧
    ∀ (filter : MedianFilter half) (level : UInt16), (∀ slot ∈ filter.window, slot = level) →
      (∀ readings, Recurring level (half + 1) readings →
        (filter.pushAll readings).1 = List.replicate readings.length level) ∧
      ∀ (before behind : Nat) (spike : List UInt16), spike.length ≤ half →
        (filter.pushAll (List.replicate before level ++ spike ++ List.replicate behind level)).1 =
          List.replicate (before + spike.length + behind) level := by
  constructor
  · intro earlier reading later recent
    exact ⟨_, getElem?_medians half earlier reading later, median_within earlier reading⟩
  · intro filter level hLevel
    refine ⟨fun readings h => pushAll_of_level hLevel h, ?_⟩
    intro before behind spike hSpike
    rw [pushAll_of_level hLevel (.of_spike hSpike level before behind)]
    simp only [List.length_append, List.length_replicate]

/-- Readings that are away from the level more often than at it, two in a row at most. -/
theorem spikes_kept_out_trial :
    let filter : MedianFilter 2 := ⟨List.replicate 5 7, rfl⟩
    let readings : List UInt16 := [9, 9, 7, 1, 0, 7, 9, 7, 9, 9]
    (∀ slot ∈ filter.window, slot = 7) ∧ Recurring 7 3 readings ∧
    (filter.pushAll readings).1 = List.replicate 10 7 := by
  intro filter readings
  have hLevel : ∀ slot ∈ filter.window, slot = 7 := fun slot hSlot => List.eq_of_mem_replicate hSlot
  have hRecurring : Recurring 7 3 readings := by decide
  exact ⟨hLevel, hRecurring, ((spikes_kept_out 2).2 filter 7 hLevel).1 readings hRecurring⟩

end MedianFilter

end Telemetry
