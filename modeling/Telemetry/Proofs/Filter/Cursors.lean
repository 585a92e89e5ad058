import Mathlib.Data.List.Basic
import Telemetry.Proofs.Filter.Sorting

/-! The merge sort cell by cell: three cursors go through the data and the space, and each access is checked. In a
space that is large enough no access is out of range, and the outcome is that of the sort on whole runs. -/
namespace Telemetry.MergeSort

/-- Writes into a cell, if there is one. -/
def store? (space : List UInt16) (place : Nat) (value : UInt16) : Option (List UInt16) :=
  if place < space.length then some (space.set place value) else none

/-- Cuts a slice in two, unless it is too short. -/
def cut? (place : Nat) (slice : List UInt16) :
    Option { parts : List UInt16 × List UInt16 // parts.1 ++ parts.2 = slice ∧ parts.1.length = place } :=
  if h : place ≤ slice.length then
    some ⟨(slice.take place, slice.drop place), List.take_append_drop place slice, List.length_take_of_le h⟩
  else none

/-- Copies a slice over another one of the same length. -/
def copyOver? (target source : List UInt16) : Option (List UInt16) :=
  if target.length = source.length then some source else none

/-- Where a merge reads the left run, where it reads the right run and where it writes. -/
structure Cursors where
  left : Nat
  right : Nat
  write : Nat

/-- As long as both runs last, the smaller value goes next, and in a tie that of the left run. -/
def mergeBoth (data : List UInt16) (middle stop : Nat) (cursors : Cursors) (space : List UInt16) :
    Option (Cursors × List UInt16) :=
  if cursors.left < middle ∧ cursors.right < stop then do
    let a ← data[cursors.left]?
    let b ← data[cursors.right]?
    if a ≤ b then
      let space ← store? space cursors.write a
      mergeBoth data middle stop ⟨cursors.left + 1, cursors.right, cursors.write + 1⟩ space
    else
      let space ← store? space cursors.write b
      mergeBoth data middle stop ⟨cursors.left, cursors.right + 1, cursors.write + 1⟩ space
  else some (cursors, space)
termination_by middle - cursors.left + (stop - cursors.right)

/-- Copies the rest of a run, and gives the cell behind it. -/
def copyRest (data : List UInt16) (stop read write : Nat) (space : List UInt16) : Option (Nat × List UInt16) :=
  if read < stop then do
    let value ← data[read]?
    let space ← store? space write value
    copyRest data stop (read + 1) (write + 1) space
  else some (write, space)
termination_by stop - read

/-- Merges the two runs of the data, from where the cursors stand: first both, then what is left of either. -/
def mergeFrom (data : List UInt16) (middle : Nat) (cursors : Cursors) (space : List UInt16) :
    Option (List UInt16) := do
  let (cursors, space) ← mergeBoth data middle data.length cursors space
  let (write, space) ← copyRest data middle cursors.left cursors.write space
  let (_, space) ← copyRest data data.length cursors.right write space
  some space

/-- Sorts `data` with the help of `space`, with every access checked: there is no result when one is out of range. -/
def checkedSort (data space : List UInt16) : Option (List UInt16 × List UInt16) :=
  if data.length < 2 then some (data, space)
  else do
    let middle := data.length / 2
    let ⟨(left, right), _⟩ ← cut? middle data
    let ⟨(work, beyond), _⟩ ← cut? data.length space
    let ⟨(leftSpace, rightSpace), _⟩ ← cut? middle work
    let (left, leftSpace) ← checkedSort left leftSpace
    let (right, rightSpace) ← checkedSort right rightSpace
    let merged ← mergeFrom (left ++ right) middle ⟨0, middle, 0⟩ (leftSpace ++ rightSpace ++ beyond)
    let ⟨(result, _), _⟩ ← cut? data.length merged
    let sorted ← copyOver? (left ++ right) result
    some (sorted, merged)
termination_by data.length
decreasing_by
  all_goals
    rename_i hRuns _ _
    have hLength := congrArg List.length hRuns.1
    have hMiddle := hRuns.2
    simp only [List.length_append] at hLength hMiddle
    omega

theorem cut?_eq {place : Nat} {slice : List UInt16} (h : place ≤ slice.length) :
    cut? place slice = some ⟨(slice.take place, slice.drop place), List.take_append_drop place slice,
      List.length_take_of_le h⟩ :=
  dif_pos h

theorem cut?_eq_none {place : Nat} {slice : List UInt16} (h : slice.length < place) : cut? place slice = none :=
  dif_neg (Nat.not_le.mpr h)

/-- A cell is written behind those that were written before. -/
theorem store?_eq (done : List UInt16) (cell : UInt16) (cells : List UInt16) (value : UInt16) :
    store? (done ++ cell :: cells) done.length value = some (done ++ [value] ++ cells) := by
  rw [store?, if_pos (by simp)]
  simp

section Merging

variable {data : List UInt16} {middle left right : Nat}

/-- The rest of a run goes behind what was written before. -/
theorem copyRest_eq {stop read : Nat} (hStop : stop ≤ data.length) (hRead : read ≤ stop) (done : List UInt16)
    {cells : List UInt16} (hRoom : stop - read ≤ cells.length) :
    copyRest data stop read done.length (done ++ cells) = some (done.length + (stop - read),
      done ++ (data.take stop).drop read ++ cells.drop (stop - read)) := by
  induction hCount : stop - read generalizing read done cells with
  | zero =>
    have hEnd : (data.take stop).drop read = [] := List.drop_eq_nil_of_le (by rw [List.length_take]; omega)
    rw [copyRest, if_neg (by omega), hEnd]
    simp
  | succ count ih =>
    obtain ⟨cell, cells, rfl⟩ := List.exists_cons_of_length_pos (show 0 < cells.length by omega)
    have hValue : read < (data.take stop).length := by
      rw [List.length_take]
      omega
    rw [copyRest, if_pos (by omega), List.getElem?_eq_getElem (by omega)]
    simp only [Option.bind_eq_bind, Option.bind_some, store?_eq]
    rw [List.length_cons] at hRoom
    have hRest := ih (show read + 1 ≤ stop by omega) (done ++ [data[read]])
      (show stop - (read + 1) ≤ cells.length by omega) (by omega)
    rw [List.length_append, List.length_singleton] at hRest
    rw [hRest, List.drop_eq_getElem_cons hValue, List.getElem_take]
    simp [Nat.add_comm, Nat.add_left_comm]

/-- As long as both runs last, a merge writes one value and goes on. -/
theorem mergeFrom_of_both (hLeft : left < middle) (hMiddle : middle ≤ data.length) (hRight : right < data.length)
    (done : List UInt16) (cell : UInt16) (cells : List UInt16) :
    mergeFrom data middle ⟨left, right, done.length⟩ (done ++ cell :: cells) =
      if data[left] ≤ data[right] then
        mergeFrom data middle ⟨left + 1, right, done.length + 1⟩ (done ++ [data[left]] ++ cells)
      else mergeFrom data middle ⟨left, right + 1, done.length + 1⟩ (done ++ [data[right]] ++ cells) := by
  rw [mergeFrom, mergeBoth, if_pos ⟨hLeft, hRight⟩, List.getElem?_eq_getElem hRight,
    List.getElem?_eq_getElem (Nat.lt_of_lt_of_le hLeft hMiddle)]
  simp only [Option.bind_eq_bind, Option.bind_some, store?_eq]
  split
  · rfl
  · rfl

/-- Once a run is at its end, a merge copies the other one. -/
theorem mergeFrom_of_either (h : ¬(left < middle ∧ right < data.length)) (hLeft : left ≤ middle)
    (hMiddle : middle ≤ data.length) (hRight : right ≤ data.length) (done : List UInt16) {cells : List UInt16}
    (hRoom : middle - left + (data.length - right) ≤ cells.length) :
    mergeFrom data middle ⟨left, right, done.length⟩ (done ++ cells) =
      some (done ++ ((data.take middle).drop left).merge (data.drop right) ++
        cells.drop (middle - left + (data.length - right))) := by
  have hMerge : ((data.take middle).drop left).merge (data.drop right) =
      (data.take middle).drop left ++ data.drop right := by
    by_cases hFirst : left < middle
    · rw [List.drop_eq_nil_of_le (show data.length ≤ right by omega)]
      simp
    · rw [List.drop_eq_nil_of_le (show (data.take middle).length ≤ left by rw [List.length_take]; omega)]
      simp
  have hWritten : (done ++ (data.take middle).drop left).length = done.length + (middle - left) := by
    simp only [List.length_append, List.length_drop, List.length_take]
    omega
  have hRest : data.length - right ≤ (cells.drop (middle - left)).length := by
    rw [List.length_drop]
    omega
  have hFirst := copyRest_eq hMiddle hLeft done (Nat.le_of_add_right_le hRoom)
  have hSecond := copyRest_eq (Nat.le_refl data.length) hRight (done ++ (data.take middle).drop left) hRest
  rw [hWritten, List.take_length, List.drop_drop] at hSecond
  rw [mergeFrom, mergeBoth, if_neg h, hMerge]
  simp only [Option.bind_eq_bind, Option.bind_some, hFirst, hSecond]
  rw [List.append_assoc done]

/-- The cursors stand for what is left of the runs and of the space, and the merge of these runs is written. -/
theorem mergeFrom_eq (hLeft : left ≤ middle) (hMiddle : middle ≤ data.length) (hRight : right ≤ data.length)
    (done : List UInt16) {cells : List UInt16} (hRoom : middle - left + (data.length - right) ≤ cells.length) :
    mergeFrom data middle ⟨left, right, done.length⟩ (done ++ cells) =
      some (done ++ ((data.take middle).drop left).merge (data.drop right) ++
        cells.drop (middle - left + (data.length - right))) := by
  -- A step with both runs takes one of the free cells, so there are as many of these steps as cells at most.
  induction cells generalizing left right done with
  | nil =>
    have hEnd : ¬(left < middle ∧ right < data.length) := by
      rw [List.length_nil] at hRoom
      omega
    exact mergeFrom_of_either hEnd hLeft hMiddle hRight done hRoom
  | cons cell cells ih =>
    by_cases hBoth : left < middle ∧ right < data.length
    · obtain ⟨hFirst, hSecond⟩ := hBoth
      have hValue : left < (data.take middle).length := by
        rw [List.length_take]
        omega
      have hRunLeft := List.drop_eq_getElem_cons hValue
      rw [List.getElem_take] at hRunLeft
      have hRunRight := List.drop_eq_getElem_cons hSecond
      rw [List.length_cons] at hRoom
      rw [mergeFrom_of_both hFirst hMiddle hSecond, hRunLeft, hRunRight, List.cons_merge_cons, ← hRunLeft,
        ← hRunRight]
      split
      · rename_i hOrder
        have hRest := ih hFirst hRight (done ++ [data[left]]) (by omega)
        have hCount : middle - left + (data.length - right) = middle - (left + 1) + (data.length - right) + 1 := by
          omega
        rw [List.length_append, List.length_singleton] at hRest
        rw [hRest, if_pos (by simpa using hOrder), hCount, List.drop_succ_cons]
        simp
      · rename_i hOrder
        have hRest := ih hLeft hSecond (done ++ [data[right]]) (by omega)
        have hCount : middle - left + (data.length - right) = middle - left + (data.length - (right + 1)) + 1 := by
          omega
        rw [List.length_append, List.length_singleton] at hRest
        rw [hRest, if_neg (by simpa using hOrder), hCount, List.drop_succ_cons]
        simp
    · exact mergeFrom_of_either hBoth hLeft hMiddle hRight done hRoom

end Merging

/-- Two runs are merged into as many cells as they have values, in front of whatever stands behind these. -/
theorem mergeFrom_runs {left right work : List UInt16} (h : work.length = left.length + right.length)
    (beyond : List UInt16) :
    mergeFrom (left ++ right) left.length ⟨0, left.length, 0⟩ (work ++ beyond) =
      some (left.merge right ++ beyond) := by
  have hCount : left.length - 0 + ((left ++ right).length - left.length) = work.length := by
    rw [h, List.length_append]
    omega
  have hEnd : left.length ≤ (left ++ right).length := by simp
  have hRoom : left.length - 0 + ((left ++ right).length - left.length) ≤ (work ++ beyond).length := by
    rw [hCount]
    simp
  have hMerged := mergeFrom_eq (Nat.zero_le left.length) hEnd hEnd [] hRoom
  rw [hCount, List.drop_left] at hMerged
  simpa using hMerged

/-- Cell by cell the sort ends as it does on whole runs, and for the same data and spaces without a result. -/
theorem checkedSort_eq (data space : List UInt16) : checkedSort data space = sortInto data space := by
  induction data, space using sortInto.induct with
  | case1 data space hShort => rw [checkedSort, sortInto, if_pos hShort, if_pos hShort]
  | case2 data space hLong hTight =>
    rw [checkedSort, sortInto, if_neg hLong, if_neg hLong, if_pos hTight]
    dsimp only
    rw [cut?_eq (Nat.div_le_self _ _), cut?_eq_none hTight]
    rfl
  | case3 data space hLong hTight middle work ihLeft ihRight =>
    have hRoom : data.length ≤ space.length := Nat.not_lt.mp hTight
    have hWork : work.length = data.length := List.length_take_of_le hRoom
    have hMiddle : middle ≤ data.length := Nat.div_le_self _ _
    have hLeftRoom : (data.take middle).length ≤ (work.take middle).length := by simp [hWork]
    have hRightRoom : (data.drop middle).length ≤ (work.drop middle).length := by simp [hWork]
    obtain ⟨left, leftSpace, hLeft, hLeftSpace, hLeftPerm, -⟩ := sortInto_eq hLeftRoom
    obtain ⟨right, rightSpace, hRight, hRightSpace, hRightPerm, -⟩ := sortInto_eq hRightRoom
    have hFirst : left.length = data.length / 2 := by
      rw [hLeftPerm.length_eq, List.length_take_of_le hMiddle]
    have hCount : left.length + right.length = data.length := by
      rw [hFirst, hRightPerm.length_eq, List.length_drop]
      exact Nat.add_sub_cancel' hMiddle
    have hSpace : (leftSpace ++ rightSpace).length = data.length := by
      rw [List.length_append, hLeftSpace, hRightSpace, ← List.length_append, List.take_append_drop, hWork]
    have hMerged := mergeFrom_runs (hSpace.trans hCount.symm) (space.drop data.length)
    have hLength : (left.merge right).length = data.length := by
      rw [List.length_merge, hCount]
    rw [sortInto_halves hLong hRoom hLeft hRight hCount hSpace, checkedSort, if_neg hLong]
    dsimp only
    rw [cut?_eq hMiddle, cut?_eq hRoom]
    simp only [Option.bind_eq_bind, Option.bind_some]
    rw [cut?_eq (show middle ≤ work.length by rwa [hWork])]
    simp only [Option.bind_some]
    rw [ihLeft, ihRight, hLeft, hRight]
    simp only [Option.bind_some]
    rw [← hFirst, hMerged]
    simp only [Option.bind_some]
    rw [cut?_eq (by rw [List.length_append, hLength]; omega)]
    simp only [Option.bind_some, List.take_left' hLength]
    rw [copyOver?, if_pos (by rw [List.length_append, hCount, hLength])]
    rfl

/-- In a space that is large enough no access of the sort is out of range. The data is left in ascending order and
holds the same values, whatever the space held, and the space is left alone behind as many cells as there is data. In
any other space there is no result, unless there is nothing to sort. -/
theorem sorted_in_place (data space : List UInt16) :
    (data.length ≤ space.length → ∃ sorted left, checkedSort data space = some (sorted, left) ∧
      sortInto data space = some (sorted, left) ∧ Ascending sorted ∧ sorted.Perm data ∧
      left.length = space.length ∧ left.drop data.length = space.drop data.length ∧
      ∀ other, data.length ≤ other.length → ∃ left, checkedSort data other = some (sorted, left)) ∧
    (checkedSort data space = none ↔ 2 ≤ data.length ∧ space.length < data.length) := by
  simp only [checkedSort_eq]
  refine ⟨fun hRoom => ?_, ?_, ?_⟩
  · obtain ⟨sorted, left, hSort, hLength, hPerm, hAscending, hBeyond⟩ := sortInto_eq hRoom
    refine ⟨sorted, left, hSort, hSort, hAscending, hPerm, hLength, hBeyond, ?_⟩
    intro other hOther
    obtain ⟨same, left, hSame, -, hSamePerm, hSameAscending, -⟩ := sortInto_eq hOther
    have hEq : same = sorted := (hSamePerm.trans hPerm.symm).eq_of_pairwise
      (fun _ _ _ _ => UInt16.le_antisymm) hSameAscending hAscending
    exact ⟨left, hEq ▸ hSame⟩
  · intro hNone
    have hTight : ¬data.length ≤ space.length := by
      intro hRoom
      obtain ⟨_, _, hSort, -⟩ := sortInto_eq hRoom
      rw [hNone] at hSort
      cases hSort
    refine ⟨Nat.not_lt.mp fun hShort => ?_, Nat.not_le.mp hTight⟩
    rw [sortInto, if_pos hShort] at hNone
    cases hNone
  · rintro ⟨hLong, hTight⟩
    rw [sortInto, if_neg (Nat.not_lt.mpr hLong), if_pos hTight]

/-- Seven readings, with a tie, in a space with two cells to spare that is not empty. -/
theorem sorted_in_place_trial :
    ([9, 3, 7, 3, 0, 0xFFFF, 1] : List UInt16).length ≤ ([8, 8, 8, 8, 8, 8, 8, 5, 6] : List UInt16).length ∧
    ∃ left, checkedSort [9, 3, 7, 3, 0, 0xFFFF, 1] [8, 8, 8, 8, 8, 8, 8, 5, 6] =
      some ([0, 1, 3, 3, 7, 9, 0xFFFF], left) ∧ left.drop 7 = [5, 6] := by
  have hRoom : ([9, 3, 7, 3, 0, 0xFFFF, 1] : List UInt16).length ≤
      ([8, 8, 8, 8, 8, 8, 8, 5, 6] : List UInt16).length := by decide
  obtain ⟨sorted, left, hSort, -, hAscending, hPerm, -, hBeyond, -⟩ := (sorted_in_place _ _).1 hRoom
  have hAnswer : sorted = [0, 1, 3, 3, 7, 9, 0xFFFF] :=
    (hPerm.trans (by decide)).eq_of_pairwise (fun _ _ _ _ => UInt16.le_antisymm) hAscending (by decide)
  exact ⟨hRoom, left, hAnswer ▸ hSort, hBeyond⟩

end Telemetry.MergeSort
