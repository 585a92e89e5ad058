import Telemetry.Filter.MergeSort

/-! The merge sort puts its data in ascending order, whatever the scratch space held before. -/
namespace Telemetry.MergeSort

/-- In ascending order. -/
def Ascending (values : List UInt16) : Prop :=
  values.Pairwise (· ≤ ·)

/-- Runs are merged in front of the part of the space that is not needed. -/
theorem mergeInto_eq {left right space : List UInt16} (h : left.length + right.length ≤ space.length) :
    mergeInto left right space =
      some (left.merge right ++ space.drop (left.length + right.length)) := by
  fun_induction mergeInto left right space with
  | case1 space => simp
  | case2 a left cell space ih =>
    simp only [List.length_cons, List.length_nil, Nat.add_zero, Nat.add_le_add_iff_right] at h ih
    simp [ih h]
  | case3 b right cell space ih =>
    simp only [List.length_cons, List.length_nil, Nat.zero_add, Nat.add_le_add_iff_right] at h ih
    simp [ih h]
  | case4 a left b right cell space hFirst ih =>
    have hCount : (a :: left).length + (b :: right).length = left.length + (b :: right).length + 1 := by
      simp only [List.length_cons]
      omega
    rw [hCount] at h
    rw [hCount, ih (Nat.le_of_succ_le_succ h), List.cons_merge_cons, if_pos (by simpa using hFirst)]
    rfl
  | case5 a left b right cell space hFirst ih =>
    have hCount : (a :: left).length + (b :: right).length = (a :: left).length + right.length + 1 := rfl
    rw [hCount] at h
    rw [hCount, ih (Nat.le_of_succ_le_succ h), List.cons_merge_cons, if_neg (by simpa using hFirst)]
    rfl
  | case6 left right hBoth =>
    cases left with
    | nil =>
      cases right with
      | nil => exact absurd rfl (hBoth rfl)
      | cons => simp at h
    | cons => simp at h

theorem ascending_merge {left right : List UInt16} (hLeft : Ascending left) (hRight : Ascending right) :
    Ascending (left.merge right) := by
  have hTrans (a b c : UInt16) (hab : decide (a ≤ b) = true) (hbc : decide (b ≤ c) = true) :
      decide (a ≤ c) = true :=
    decide_eq_true (UInt16.le_trans (of_decide_eq_true hab) (of_decide_eq_true hbc))
  have hTotal (a b : UInt16) : (decide (a ≤ b) || decide (b ≤ a)) = true := by
    simpa using UInt16.le_total a b
  have hMerged := List.pairwise_merge hTrans hTotal left right
    (hLeft.imp decide_eq_true) (hRight.imp decide_eq_true)
  exact hMerged.imp of_decide_eq_true

/-- Once both halves of the data are sorted they are merged, in front of the part of the space that is not needed. -/
theorem sortInto_halves {data space left leftSpace right rightSpace : List UInt16} (hLong : ¬data.length < 2)
    (hRoom : data.length ≤ space.length)
    (hLeft : sortInto (data.take (data.length / 2)) ((space.take data.length).take (data.length / 2)) =
      some (left, leftSpace))
    (hRight : sortInto (data.drop (data.length / 2)) ((space.take data.length).drop (data.length / 2)) =
      some (right, rightSpace))
    (hCount : left.length + right.length = data.length) (hSpace : (leftSpace ++ rightSpace).length = data.length) :
    sortInto data space = some (left.merge right, left.merge right ++ space.drop data.length) := by
  have hMerged : mergeInto left right (leftSpace ++ rightSpace) = some (left.merge right) := by
    rw [mergeInto_eq (by omega), hCount, ← hSpace, List.drop_length, List.append_nil]
  have hTake : (left.merge right).take data.length = left.merge right :=
    List.take_of_length_le (Nat.le_of_eq (by rw [List.length_merge, hCount]))
  rw [sortInto, if_neg hLong, if_neg (Nat.not_lt.mpr hRoom)]
  simp only [hLeft, hRight, hMerged, hTake, Option.bind_eq_bind, Option.bind_some]

/-- In a space that is large enough, data and space are left as long as they were, the data holds the same values in
ascending order, and the space is left alone behind as many cells as there is data. -/
theorem sortInto_eq {data space : List UInt16} (h : data.length ≤ space.length) :
    ∃ sorted left, sortInto data space = some (sorted, left) ∧ left.length = space.length ∧
      sorted.Perm data ∧ Ascending sorted ∧ left.drop data.length = space.drop data.length := by
  induction data, space using sortInto.induct with
  | case1 data space hShort =>
    refine ⟨data, space, by rw [sortInto, if_pos hShort], rfl, .refl _, ?_, rfl⟩
    match data, hShort with
    | [], _ => exact List.Pairwise.nil
    | [value], _ => exact List.pairwise_singleton _ _
  | case2 data space hLong hTight => omega
  | case3 data space hLong hRoom middle work ihLeft ihRight =>
    have hWork : work.length = data.length := List.length_take_of_le h
    obtain ⟨left, leftSpace, hLeft, hLeftSpace, hLeftPerm, hLeftAscending, -⟩ := ihLeft (by simp [hWork])
    obtain ⟨right, rightSpace, hRight, hRightSpace, hRightPerm, hRightAscending, -⟩ := ihRight (by simp [hWork])
    have hRuns : (left ++ right).Perm data := by
      rw [← List.take_append_drop middle data]
      exact hLeftPerm.append hRightPerm
    have hSpace : (leftSpace ++ rightSpace).length = data.length := by
      rw [List.length_append, hLeftSpace, hRightSpace, ← List.length_append, List.take_append_drop, hWork]
    have hCount : left.length + right.length = data.length := by
      rw [← List.length_append]
      exact hRuns.length_eq
    have hPerm : (left.merge right).Perm data := (List.merge_perm_append _).trans hRuns
    refine ⟨_, _, sortInto_halves hLong h hLeft hRight hCount hSpace, ?_, hPerm,
      ascending_merge hLeftAscending hRightAscending, List.drop_left' hPerm.length_eq⟩
    rw [List.length_append, hPerm.length_eq, List.length_drop]
    omega

private theorem sorted_spec (data : List UInt16) : (sorted data).Perm data ∧ Ascending (sorted data) := by
  have hRoom : data.length ≤ (List.replicate data.length (0 : UInt16)).length := by simp
  obtain ⟨found, left, hSort, -, hPerm, hAscending, -⟩ := sortInto_eq hRoom
  have hFound : sorted data = found := by
    rw [sorted, hSort]
    rfl
  rw [hFound]
  exact ⟨hPerm, hAscending⟩

theorem perm_sorted (data : List UInt16) : (sorted data).Perm data :=
  (sorted_spec data).1

theorem ascending_sorted (data : List UInt16) : Ascending (sorted data) :=
  (sorted_spec data).2

/-- The value that comes `n`-th when the values are counted from the smallest, repetitions included: fewer
than `n` are below it, and `n` at least are not above it. -/
def IsNthSmallest (n : Nat) (values : List UInt16) (value : UInt16) : Prop :=
  values.countP (· < value) < n ∧ n ≤ values.countP (· ≤ value)

/-- There is one such value at most. -/
theorem IsNthSmallest.unique {n : Nat} {values : List UInt16} {value other : UInt16}
    (h : IsNthSmallest n values value) (h' : IsNthSmallest n values other) : value = other := by
  have hLe {a b : UInt16} (ha : IsNthSmallest n values a) (hb : IsNthSmallest n values b) : a ≤ b := by
    refine UInt16.not_lt.mp fun hAbove => ?_
    have hCount : values.countP (· ≤ b) ≤ values.countP (· < a) := by
      apply List.countP_mono_left
      intro c _ hc
      have hBelow : c ≤ b := by simpa using hc
      simpa using UInt16.lt_of_le_of_lt hBelow hAbove
    exact absurd (Nat.le_trans hb.2 hCount) (Nat.not_le.mpr ha.1)
  exact UInt16.le_antisymm (hLe h h') (hLe h' h)

theorem IsNthSmallest.of_perm {n : Nat} {values others : List UInt16} {value : UInt16}
    (h : IsNthSmallest n values value) (hPerm : values.Perm others) : IsNthSmallest n others value := by
  rw [IsNthSmallest, ← hPerm.countP_eq, ← hPerm.countP_eq]
  exact h

theorem Ascending.getElem_le {values : List UInt16} (h : Ascending values) {earlier later : Nat}
    (hOrder : earlier ≤ later) (hLater : later < values.length) : values[earlier] ≤ values[later] := by
  obtain rfl | hBefore := Nat.eq_or_lt_of_le hOrder
  · exact UInt16.le_refl _
  · exact List.pairwise_iff_getElem.mp h earlier later (by omega) hLater hBefore

theorem Ascending.isNthSmallest {values : List UInt16} (h : Ascending values) {place : Nat}
    (hPlace : place < values.length) : IsNthSmallest (place + 1) values values[place] := by
  constructor
  · have hBehind : (values.drop place).countP (· < values[place]) = 0 := by
      rw [List.countP_eq_zero]
      intro value hValue
      obtain ⟨offset, hOffset, rfl⟩ := List.getElem_of_mem hValue
      rw [List.length_drop] at hOffset
      rw [List.getElem_drop]
      simpa using h.getElem_le (Nat.le_add_right place offset) (by omega)
    have hBefore : (values.take place).countP (· < values[place]) ≤ place :=
      Nat.le_trans List.countP_le_length (List.length_take_le _ _)
    have hCount : values.countP (· < values[place]) =
        (values.take place).countP (· < values[place]) + (values.drop place).countP (· < values[place]) := by
      rw [← List.countP_append, List.take_append_drop]
    omega
  · have hUpTo : (values.take (place + 1)).countP (· ≤ values[place]) = (values.take (place + 1)).length := by
      rw [List.countP_eq_length]
      intro value hValue
      obtain ⟨earlier, hEarlier, rfl⟩ := List.getElem_of_mem hValue
      rw [List.length_take] at hEarlier
      rw [List.getElem_take]
      simpa using h.getElem_le (by omega) hPlace
    have hPart := (List.take_sublist (place + 1) values).countP_le (p := (· ≤ values[place]))
    rw [hUpTo, List.length_take, Nat.min_eq_left hPlace] at hPart
    exact hPart

/-- Sorting brings every order statistic of the data to its place. -/
theorem isNthSmallest_sorted {data : List UInt16} {place : Nat} (h : place < data.length) :
    IsNthSmallest (place + 1) data ((sorted data).getD place 0) := by
  have hPlace : place < (sorted data).length := by rwa [(perm_sorted data).length_eq]
  rw [List.getD_eq_getElem?_getD, List.getElem?_eq_getElem hPlace, Option.getD_some]
  exact ((ascending_sorted data).isNthSmallest hPlace).of_perm (perm_sorted data)

end Telemetry.MergeSort
