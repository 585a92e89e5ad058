import Mathlib.Data.List.Forall2
import Telemetry.Proofs.Filter.Recursion

/-! Median filters are monotone: of two runs, the one whose readings are nowhere greater gives medians and keeps
windows that are nowhere greater. -/
namespace Telemetry

namespace MergeSort

open List (Forall₂)

private theorem countP_le_of_forall₂ {lower upper : List UInt16} (h : Forall₂ (· ≤ ·) lower upper)
    (bound : UInt16) : upper.countP (· ≤ bound) ≤ lower.countP (· ≤ bound) := by
  induction h with
  | nil => exact Nat.le_refl _
  | @cons small large lower upper hOrder _ ih =>
    rw [List.countP_cons, List.countP_cons]
    by_cases hLarge : large ≤ bound
    · have hSmall : small ≤ bound := UInt16.le_trans hOrder hLarge
      rw [if_pos (decide_eq_true hLarge), if_pos (decide_eq_true hSmall)]
      exact Nat.succ_le_succ ih
    · rw [if_neg (by simpa using hLarge)]
      exact Nat.le_trans ih (Nat.le_add_right _ _)

/-- Order statistics do not depend on where the values stand, yet follow a comparison place by place. -/
theorem IsNthSmallest.le_of_forall₂ {n : Nat} {lower upper : List UInt16} {value other : UInt16}
    (h : IsNthSmallest n lower value) (h' : IsNthSmallest n upper other)
    (hOrder : Forall₂ (· ≤ ·) lower upper) : value ≤ other := by
  refine UInt16.not_lt.mp fun hAbove => ?_
  have hStrict : lower.countP (· ≤ other) ≤ lower.countP (· < value) := by
    apply List.countP_mono_left
    intro reading _ hUpTo
    exact decide_eq_true (UInt16.lt_of_le_of_lt (of_decide_eq_true hUpTo) hAbove)
  have hUpTo := countP_le_of_forall₂ hOrder other
  have hEnough := h'.2
  have hFew := h.1
  omega

end MergeSort

namespace MedianFilter

open List (Forall₂)

variable {half : Nat}

private theorem forall₂_set {lower upper : List UInt16} {small large : UInt16}
    (h : Forall₂ (· ≤ ·) lower upper) (hOrder : small ≤ large) (place : Nat) :
    Forall₂ (· ≤ ·) (lower.set place small) (upper.set place large) := by
  induction h generalizing place with
  | nil => exact .nil
  | cons hHead hTail ih =>
    cases place with
    | zero => exact .cons hOrder hTail
    | succ place => exact .cons hHead (ih place)

section Step

variable {filter other : MedianFilter half} {small large : UInt16}

theorem shifted_mono (h : Forall₂ (· ≤ ·) filter.window other.window) (hOrder : small ≤ large) :
    Forall₂ (· ≤ ·) (filter.shifted small) (other.shifted large) := by
  have hTail : Forall₂ (· ≤ ·) filter.window.tail other.window.tail := by
    rw [← List.drop_one, ← List.drop_one]
    exact List.forall₂_drop 1 h
  exact List.rel_append hTail (.cons hOrder .nil)

theorem median_mono (h : Forall₂ (· ≤ ·) filter.window other.window) (hOrder : small ≤ large) :
    filter.median small ≤ other.median large :=
  (isNthSmallest_median filter small).le_of_forall₂ (isNthSmallest_median other large) (shifted_mono h hOrder)

theorem push_mono (h : Forall₂ (· ≤ ·) filter.window other.window) (hOrder : small ≤ large) :
    Forall₂ (· ≤ ·) (filter.push small).window (other.push large).window :=
  forall₂_set (shifted_mono h hOrder) (median_mono h hOrder) half

end Step

theorem pushAll_mono {filter other : MedianFilter half} {lower upper : List UInt16}
    (hWindow : Forall₂ (· ≤ ·) filter.window other.window) (h : Forall₂ (· ≤ ·) lower upper) :
    Forall₂ (· ≤ ·) (filter.pushAll lower).1 (other.pushAll upper).1 ∧
    Forall₂ (· ≤ ·) (filter.pushAll lower).2.window (other.pushAll upper).2.window := by
  induction h generalizing filter other with
  | nil => exact ⟨.nil, hWindow⟩
  | cons hOrder _ ih =>
    obtain ⟨hMedians, hLast⟩ := ih (push_mono hWindow hOrder)
    exact ⟨.cons (median_mono hWindow hOrder) hMedians, hLast⟩

/-- Readings that are nowhere greater never give a greater median, and no slot of the window is greater after any
number of them: writing medians back does not turn the comparison round. -/
theorem medians_monotone (half : Nat) {lower upper : List UInt16} (h : Forall₂ (· ≤ ·) lower upper) :
    Forall₂ (· ≤ ·) (medians half lower) (medians half upper) ∧
    ∀ time, Forall₂ (· ≤ ·) (after half (lower.take time)).window (after half (upper.take time)).window := by
  have hFresh : Forall₂ (· ≤ ·) (zero : MedianFilter half).window (zero : MedianFilter half).window :=
    List.forall₂_same.mpr fun _ _ => UInt16.le_refl _
  constructor
  · exact (pushAll_mono hFresh h).1
  · intro time
    exact (pushAll_mono hFresh (List.forall₂_take time h)).2

/-- Two runs of a window of five, the readings of one above those of the other by different amounts. -/
theorem medians_monotone_trial :
    let lower : List UInt16 := [7, 3, 9, 1, 4, 8]
    let upper : List UInt16 := [7, 5, 9, 6, 4, 65535]
    Forall₂ (· ≤ ·) lower upper ∧
    medians 2 lower = [0, 0, 3, 3, 3, 3] ∧ medians 2 upper = [0, 0, 5, 5, 5, 5] ∧
    Forall₂ (· ≤ ·) (medians 2 lower) (medians 2 upper) ∧
    Forall₂ (· ≤ ·) (after 2 (lower.take 5)).window (after 2 (upper.take 5)).window := by
  intro lower upper
  have hOrder : Forall₂ (· ≤ ·) lower upper := by decide
  obtain ⟨hMedians, hWindows⟩ := medians_monotone 2 hOrder
  exact ⟨hOrder, by decide +kernel, by decide +kernel, hMedians, hWindows 5⟩

end MedianFilter

end Telemetry
