import Telemetry.Basic

/-! Merge sort that does all its merging inside a given scratch space. -/
namespace Telemetry.MergeSort

/-- Merges two sorted runs into a space, cell by cell; a tie takes the left run first, cells that are
not needed keep their content, and there is no result when the space is too short. -/
def mergeInto : List UInt16 → List UInt16 → List UInt16 → Option (List UInt16)
  | [], [], space => some space
  | a :: left, [], _ :: space => (mergeInto left [] space).map (a :: ·)
  | [], b :: right, _ :: space => (mergeInto [] right space).map (b :: ·)
  | a :: left, b :: right, _ :: space =>
    if a ≤ b then (mergeInto left (b :: right) space).map (a :: ·)
    else (mergeInto (a :: left) right space).map (b :: ·)
  | _, _, [] => none

/-- Sorts `data` with the help of `space`. The result pairs the sorted data with the space as it is
left behind; there is none when the space is shorter than the data. -/
def sortInto (data space : List UInt16) : Option (List UInt16 × List UInt16) :=
  if data.length < 2 then some (data, space)
  else if space.length < data.length then none
  else do
    let middle := data.length / 2
    let work := space.take data.length
    let (left, leftSpace) ← sortInto (data.take middle) (work.take middle)
    let (right, rightSpace) ← sortInto (data.drop middle) (work.drop middle)
    let merged ← mergeInto left right (leftSpace ++ rightSpace)
    some (merged.take data.length, merged ++ space.drop data.length)
termination_by data.length
decreasing_by
  · simp only [List.length_take]; omega
  · simp only [List.length_drop]; omega

/-- Sorted copy, merged in a fresh space of the same length. -/
def sorted (data : List UInt16) : List UInt16 :=
  ((sortInto data (List.replicate data.length 0)).map Prod.fst).getD data

end Telemetry.MergeSort
