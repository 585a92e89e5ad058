import Mathlib.Logic.Function.Basic
import Telemetry.Config.File
import Telemetry.Proofs.Config.Lawful

/-! Labels tell all keys apart, whatever the channel, so a store by label keeps the laws of a store by
key. -/
namespace Telemetry

namespace ConfigKey

theorem isDigit_of_mem_repr {number : Nat} {c : Char} (h : c ∈ number.repr.toList) : c.isDigit := by
  rw [Nat.repr_eq_ofList_toDigits, String.toList_ofList] at h
  exact Nat.isDigit_of_mem_toDigits (by decide) (by decide) h

private theorem repr_injective : Function.Injective Nat.repr := by
  intro left right h
  have hDigits := congrArg (fun text => Nat.ofDigitChars 10 text.toList 0) h
  simpa [Nat.repr_eq_ofList_toDigits] using hDigits

theorem thresh_repr_ne (channel : Nat) : "thresh" ++ channel.repr ≠ "threshold" := by
  intro h
  have hOld : channel.repr = "old" := (String.append_right_inj "thresh").mp h
  have hMem : 'o' ∈ channel.repr.toList := by simp [hOld]
  exact absurd (isDigit_of_mem_repr hMem) (by decide)

theorem label_injective : Function.Injective label := by
  intro left right h
  have hList := congrArg String.toList h
  cases left with
  | nodeId =>
    cases right with
    | nodeId => rfl
    | _ => simp [label] at hList
  | thresholdPercent =>
    cases right with
    | thresholdPercent => rfl
    | threshold channel => exact absurd h.symm (thresh_repr_ne channel)
    | _ => simp [label] at hList
  | calibrationMax channel =>
    cases right with
    | calibrationMax other => rw [repr_injective ((String.append_right_inj "max").mp h)]
    | _ => simp [label] at hList
  | calibrationMin channel =>
    cases right with
    | calibrationMin other => rw [repr_injective ((String.append_right_inj "min").mp h)]
    | _ => simp [label] at hList
  | threshold channel =>
    cases right with
    | thresholdPercent => exact absurd h (thresh_repr_ne channel)
    | threshold other => rw [repr_injective ((String.append_right_inj "thresh").mp h)]
    | _ => simp [label] at hList

end ConfigKey

namespace FileStore

/-- Putting in a value changes what is found under its label only, ordered or not. -/
theorem lookup_insertLabel (label other : String) (value : UInt16) (values : List (String × UInt16)) :
    (insertLabel label value values).lookup other =
      if other = label then some value else values.lookup other := by
  induction values with
  | nil => exact Entries.lookup_cons label other value []
  | cons entry rest ih =>
    obtain ⟨held, kept⟩ := entry
    rw [insertLabel]
    split
    · rw [Entries.lookup_cons]
    · split
      · rename_i hSame
        subst hSame
        rw [Entries.lookup_cons, Entries.lookup_cons]
        by_cases h : other = label
        · simp [h]
        · simp [h]
      · rename_i hDiffers
        rw [Entries.lookup_cons, Entries.lookup_cons, ih]
        by_cases h : other = label
        · simp [h, hDiffers]
        · simp [h]

/-- A label that is given back what it had is found as before, and so is every other. -/
theorem lookup_putBack (label other : String) (value : UInt16) (values : List (String × UInt16)) :
    (putBack label (values.lookup label) (insertLabel label value values)).lookup other =
      values.lookup other := by
  cases hHeld : values.lookup label with
  | some held =>
    rw [putBack, lookup_insertLabel, lookup_insertLabel]
    by_cases h : other = label
    · simp [h, hHeld]
    · simp [h]
  | none =>
    rw [putBack]
    by_cases h : other = label
    · rw [h, Entries.lookup_filter_self, hHeld]
    · rw [Entries.lookup_filter_ne h, lookup_insertLabel, if_neg h]

instance : LawfulStore FileStore where
  get_written {store written key value} other h := by
    change store.set key value = _ at h
    rw [set] at h
    split at h
    · cases h
    · dsimp only at h
      split at h
      · cases h
        exact (lookup_insertLabel _ _ _ _).trans (if_congr ConfigKey.label_injective.eq_iff rfl rfl)
      · cases h
  get_refused {store left key value error} other h := by
    change store.set key value = _ at h
    rw [set] at h
    split at h
    · cases h
      rfl
    · dsimp only at h
      split at h
      · cases h
      · cases h
        exact lookup_putBack _ _ _ _

end FileStore

end Telemetry
