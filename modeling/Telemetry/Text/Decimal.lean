/-! Numbers as text: plain decimal digits, two-digit hexadecimal bytes and fixed widths. -/
namespace Telemetry.Text

/-- Whether a character is one of the ten ASCII digits. -/
def isDigit (c : Char) : Bool :=
  '0' ≤ c && c ≤ '9'

/-- Value of a non-empty run of digits. -/
def digitsValue? (text : List Char) : Option Nat :=
  if !text.isEmpty && text.all isDigit then some (Nat.ofDigitChars 10 text 0) else none

/-- A natural number below `bound`: digits, with at most one plus sign before them. -/
def boundedNat? (bound : Nat) (text : List Char) : Option Nat :=
  let digits := match text with
    | '+' :: rest => rest
    | _ => text
  (digitsValue? digits).filter (· < bound)

/-- Decimal digits and their value. -/
structure Digits (text : List Char) (number : Nat) : Prop where
  ne_nil : text ≠ []
  digits : ∀ c ∈ text, '0' ≤ c ∧ c ≤ '9'
  value : Nat.ofDigitChars 10 text 0 = number

/-- Digits with at most one plus sign before them, and their value. -/
inductive Numeral : List Char → Nat → Prop
  | bare {text : List Char} {number : Nat} (h : Digits text number) : Numeral text number
  | plus {text : List Char} {number : Nat} (h : Digits text number) : Numeral ('+' :: text) number

theorem digitsValue?_eq_some_iff {text : List Char} {number : Nat} :
    digitsValue? text = some number ↔ Digits text number := by
  rw [digitsValue?]
  constructor
  · intro h
    split at h
    · rename_i hText
      simp only [Bool.and_eq_true, Bool.not_eq_true', List.isEmpty_eq_false_iff, List.all_eq_true, isDigit,
        decide_eq_true_eq] at hText
      exact ⟨hText.1, hText.2, Option.some.inj h⟩
    · cases h
  · rintro ⟨hSome, hDigits, hValue⟩
    rw [if_pos (by simpa [isDigit, hSome] using hDigits), hValue]

theorem boundedNat?_eq_some_iff {bound number : Nat} {text : List Char} :
    boundedNat? bound text = some number ↔ Numeral text number ∧ number < bound := by
  unfold boundedNat?
  rw [Option.filter_eq_some_iff, decide_eq_true_eq, digitsValue?_eq_some_iff]
  refine and_congr_left fun _ => ⟨fun h => ?_, fun h => ?_⟩
  · split at h
    · exact .plus h
    · exact .bare h
  · cases h with
    | plus h => exact h
    | bare h =>
      split
      · exact absurd (h.digits '+' List.mem_cons_self).1 (by decide)
      · exact h

/-- Two upper-case hexadecimal digits. -/
def hexByte (byte : UInt8) : String :=
  String.ofList [Nat.digitChar (byte.toNat / 16), Nat.digitChar (byte.toNat % 16)] |>.toUpper

/-- Fills up on the left. -/
def padLeft (width : Nat) (fill : Char) (text : String) : String :=
  String.ofList (List.replicate (width - text.length) fill) ++ text

/-- Fills up on the right with blanks. -/
def padRight (width : Nat) (text : String) : String :=
  text ++ String.ofList (List.replicate (width - text.length) ' ')

end Telemetry.Text
