import Telemetry.Json.Value
import Telemetry.Text.Blank

/-! White space of any kind is no JSON text, so a text that is one is not taken for an empty file. -/
namespace Telemetry.Json

theorem digits1_of_space {text : List Char} (h : text.all Text.isSpace = true) : digits1 text = none := by
  cases text with
  | nil => rfl
  | cons c rest =>
    have hSpace : Text.isSpace c = true := (Bool.and_eq_true_iff.mp h).1
    have hDigit : Text.isDigit c = false := by
      refine Bool.eq_false_iff.mpr fun hDigit => ?_
      simp only [Text.isDigit, Bool.and_eq_true, decide_eq_true_eq, Char.le_def, UInt32.le_iff_toNat_le] at hDigit
      simp only [Text.isSpace, Char.toNat, Bool.or_eq_true, Bool.and_eq_true, decide_eq_true_eq,
        beq_iff_eq] at hSpace
      have hLow : 48 ≤ c.val.toNat := hDigit.1
      have hHigh : c.val.toNat ≤ 57 := hDigit.2
      omega
    simp [digits1, hDigit]

theorem numberLiteral_of_space {text : List Char} (h : text.all Text.isSpace = true) :
    numberLiteral text = none := by
  rw [numberLiteral.eq_def]
  split
  · cases h
  · rw [magnitude, integerPart.eq_def]
    split
    · cases h
    · rw [digits1_of_space h]
      rfl

theorem value_of_space {text : List Char} (h : text.all Text.isSpace = true) (depth : Nat) :
    value depth text = none := by
  cases depth with
  | zero => rfl
  | succ depth =>
    have hRest : (skipBlank text).all Text.isSpace = true := by
      rw [List.all_eq_true] at h ⊢
      exact fun c hMember => h c ((List.dropWhile_sublist _).subset hMember)
    rw [value]
    split
    case h_7 =>
      rw [numberLiteral_of_space hRest]
      rfl
    -- Everything else begins with a character that is no white space.
    all_goals
      rename_i hText
      rw [hText] at hRest
      cases hRest

theorem isBlankText_of_parse {text : String} {found : Value} (h : parse text = some found) :
    Text.isBlankText text = false := by
  refine Bool.eq_false_iff.mpr fun hBlank => ?_
  rw [parse, value_of_space hBlank] at h
  cases h

end Telemetry.Json
