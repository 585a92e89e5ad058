import Mathlib.Data.List.Induction
import Telemetry.Basic

/-! The largest and the smallest of a series of values, and which of its values are records. -/
namespace Telemetry

instance lawfulOrderMax : Std.LawfulOrderMax UInt16 where
  max_eq_or a b := by
    change (if a ≤ b then b else a) = a ∨ (if a ≤ b then b else a) = b
    split
    · exact .inr rfl
    · exact .inl rfl
  max_le_iff a b c := by
    change (if a ≤ b then b else a) ≤ c ↔ a ≤ c ∧ b ≤ c
    split
    · rename_i hOrder
      exact ⟨fun h => ⟨UInt16.le_trans hOrder h, h⟩, And.right⟩
    · rename_i hOrder
      have hBelow : b ≤ a := UInt16.le_of_lt (UInt16.not_le.mp hOrder)
      exact ⟨fun h => ⟨h, UInt16.le_trans hBelow h⟩, And.left⟩

/-- The largest of the values, zero if there is none. -/
def largest (values : List UInt16) : UInt16 :=
  values.foldl max 0

/-- The smallest of the values, the end of the range if there is none. -/
def smallest (values : List UInt16) : UInt16 :=
  values.foldl min 0xFFFF

/-- The values that are no records: a record exceeds zero and every value before it. -/
def nonRecords (values : List UInt16) : List UInt16 :=
  (values.zipIdx.filter fun entry => entry.1 ≤ largest (values.take entry.2)).map Prod.fst

theorem largest_concat (values : List UInt16) (value : UInt16) :
    largest (values ++ [value]) = max (largest values) value :=
  List.foldl_append

theorem smallest_concat (values : List UInt16) (value : UInt16) :
    smallest (values ++ [value]) = min (smallest values) value :=
  List.foldl_append

theorem largest_le_iff {values : List UInt16} {bound : UInt16} :
    largest values ≤ bound ↔ ∀ value ∈ values, value ≤ bound := by
  induction values using List.reverseRecOn with
  | nil => exact iff_of_true UInt16.zero_le (List.forall_mem_nil _)
  | append_singleton values value ih =>
    rw [largest_concat, Std.max_le_iff, ih, List.forall_mem_append, List.forall_mem_singleton]

theorem le_smallest_iff {values : List UInt16} {bound : UInt16} :
    bound ≤ smallest values ↔ ∀ value ∈ values, bound ≤ value := by
  induction values using List.reverseRecOn with
  | nil =>
    have hEnd : bound ≤ 0xFFFF := UInt16.le_iff_toNat_le.mpr (Nat.le_of_lt_succ bound.toNat_lt)
    exact iff_of_true hEnd (List.forall_mem_nil _)
  | append_singleton values value ih =>
    rw [smallest_concat, Std.le_min_iff, ih, List.forall_mem_append, List.forall_mem_singleton]

theorem le_largest {values : List UInt16} {value : UInt16} (h : value ∈ values) : value ≤ largest values :=
  largest_le_iff.mp (UInt16.le_refl _) value h

theorem smallest_le {values : List UInt16} {value : UInt16} (h : value ∈ values) : smallest values ≤ value :=
  le_smallest_iff.mp (UInt16.le_refl _) value h

theorem largest_mem (values : List UInt16) : largest values ∈ 0 :: values := by
  induction values using List.reverseRecOn with
  | nil => exact List.mem_cons_self
  | append_singleton values value ih =>
    rw [largest_concat, ← List.cons_append]
    rcases Std.MaxEqOr.max_eq_or (largest values) value with hMax | hMax
    · rw [hMax]
      exact List.mem_append_left _ ih
    · rw [hMax]
      exact List.mem_append_right _ List.mem_cons_self

theorem largest_lt_iff {values : List UInt16} {bound : UInt16} :
    largest values < bound ↔ ∀ value ∈ 0 :: values, value < bound := by
  constructor
  · intro h value hValue
    rcases List.mem_cons.mp hValue with rfl | hValue
    · exact UInt16.lt_of_le_of_lt UInt16.zero_le h
    · exact UInt16.lt_of_le_of_lt (le_largest hValue) h
  · intro h
    exact h _ (largest_mem values)

theorem nonRecords_concat (values : List UInt16) (value : UInt16) :
    nonRecords (values ++ [value]) =
      nonRecords values ++ if value ≤ largest values then [value] else [] := by
  have hEarlier : values.zipIdx.filter (fun entry => entry.1 ≤ largest ((values ++ [value]).take entry.2)) =
      values.zipIdx.filter (fun entry => entry.1 ≤ largest (values.take entry.2)) := by
    apply List.filter_congr
    intro entry hEntry
    have hPlace : entry.2 < values.length := by simpa using List.snd_lt_of_mem_zipIdx hEntry
    rw [List.take_append_of_le_length (Nat.le_of_lt hPlace)]
  rw [nonRecords, List.zipIdx_append, List.filter_append, hEarlier, List.map_append, ← nonRecords]
  congr 1
  by_cases hRecord : value ≤ largest values
  · simp [hRecord]
  · simp [hRecord]

theorem mem_of_mem_nonRecords {values : List UInt16} {value : UInt16} (h : value ∈ nonRecords values) :
    value ∈ values := by
  obtain ⟨entry, hEntry, rfl⟩ := List.mem_map.mp h
  exact List.fst_mem_of_mem_zipIdx (List.mem_filter.mp hEntry).1

/-- In a strictly rising series from above zero, and in no other, every value is a record. -/
theorem nonRecords_eq_nil_iff {values : List UInt16} :
    nonRecords values = [] ↔ (0 :: values).Pairwise (· < ·) := by
  induction values using List.reverseRecOn with
  | nil => simp [nonRecords]
  | append_singleton values value ih =>
    rw [nonRecords_concat, List.append_eq_nil_iff, ih, ← List.cons_append, List.pairwise_append]
    have hRecord : (if value ≤ largest values then [value] else []) = [] ↔
        ∀ earlier ∈ 0 :: values, earlier < value := by
      rw [← largest_lt_iff, ← UInt16.not_le, ite_eq_right_iff]
      simp
    rw [hRecord]
    simp

end Telemetry
