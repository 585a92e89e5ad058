import Mathlib.Data.List.Basic
import Telemetry.Json.Value
import Telemetry.Json.Writer

/-! A written object is read back as it was written, whatever its labels, its values and its layout. -/
namespace Telemetry.Json

/-! Strings: each character and how it is read back. -/

/-- Control characters without an escape of their own are written, and so read back, by their number. -/
def pieceOf (c : Char) : Piece :=
  if c.toNat < 0x20 ∧ c ∉ ['\x08', '\t', '\n', '\x0c', '\r'] then .unit c.toNat else .char c

theorem pieces_escaped {letter c : Char} (h : escaped? letter = some c) (rest : List Char) :
    pieces ('\\' :: letter :: rest) = (pieces rest).map fun found => (.char c :: found.1, found.2) := by
  have hUnit : letter ≠ 'u' := by
    rintro rfl
    cases h
  rw [pieces.eq_def]
  split
  · simp_all
  · simp_all
  · cases hRest : pieces rest <;> simp_all
  · rename_i hNoLetter hText
    cases hText
    exact absurd rfl (hNoLetter _ _ rfl)
  · simp_all

theorem pieces_unit {code : Nat} (h : code < 0x20) (rest : List Char) :
    pieces ('\\' :: 'u' :: '0' :: '0' :: Nat.digitChar (code / 16) :: Nat.digitChar (code % 16) :: rest) =
      (pieces rest).map fun found => (.unit code :: found.1, found.2) := by
  have hUnit : ∀ code < 0x20,
      hexUnit? '0' '0' (Nat.digitChar (code / 16)) (Nat.digitChar (code % 16)) = some code := by
    decide
  rw [pieces, hUnit code h]
  cases hRest : pieces rest <;> rfl

theorem pieces_plain {c : Char} (hQuote : c ≠ '"') (hBackslash : c ≠ '\\') (hControl : ¬c.toNat < 0x20)
    (rest : List Char) :
    pieces (c :: rest) = (pieces rest).map fun found => (.char c :: found.1, found.2) := by
  rw [pieces.eq_def]
  split
  · simp_all
  · simp_all
  · simp_all
  · cases hRest : pieces rest <;> simp_all
  · simp_all

theorem pieces_escapeChar (c : Char) (rest : List Char) :
    pieces (escapeChar c ++ rest) = (pieces rest).map fun found => (pieceOf c :: found.1, found.2) := by
  unfold escapeChar
  split_ifs with hQuote hBackslash hBackspace hTab hLine hPage hReturn hControl
  · subst hQuote
    exact pieces_escaped rfl rest
  · subst hBackslash
    exact pieces_escaped rfl rest
  · subst hBackspace
    exact pieces_escaped rfl rest
  · subst hTab
    exact pieces_escaped rfl rest
  · subst hLine
    exact pieces_escaped rfl rest
  · subst hPage
    exact pieces_escaped rfl rest
  · subst hReturn
    exact pieces_escaped rfl rest
  · have hPiece : pieceOf c = .unit c.toNat := by
      simp [pieceOf, hControl, hBackspace, hTab, hLine, hPage, hReturn]
    rw [hPiece]
    exact pieces_unit hControl rest
  · have hPiece : pieceOf c = .char c := by
      simp [pieceOf, hControl]
    rw [hPiece]
    exact pieces_plain hQuote hBackslash hControl rest

theorem pieces_escaped_text (text rest : List Char) :
    pieces (text.flatMap escapeChar ++ '"' :: rest) = some (text.map pieceOf, rest) := by
  induction text with
  | nil => rfl
  | cons c text ih =>
    rw [List.flatMap_cons, List.append_assoc, pieces_escapeChar, ih]
    rfl

theorem joinPieces_unit {code : Nat} (h : code < 0x20) (rest : List Piece) :
    joinPieces (.unit code :: rest) = (joinPieces rest).map (Char.ofNat code :: ·) := by
  have hHigh : isHighUnit code = false := by
    simp [isHighUnit]
    omega
  have hLow : isLowUnit code = false := by
    simp [isLowUnit]
    omega
  rw [joinPieces.eq_def]
  split <;> simp_all

theorem joinPieces_pieceOf (text : List Char) : joinPieces (text.map pieceOf) = some text := by
  induction text with
  | nil => rfl
  | cons c text ih =>
    rw [List.map_cons, pieceOf]
    split
    · rename_i hControl
      rw [joinPieces_unit hControl.1, ih, Char.ofNat_toNat]
      rfl
    · rw [joinPieces, ih]
      rfl

theorem stringBody_quoted (text : String) (rest : List Char) :
    stringBody (text.toList.flatMap escapeChar ++ '"' :: rest) = some (some text, rest) := by
  rw [stringBody, pieces_escaped_text]
  simp [joinPieces_pieceOf]

/-! Blanks between tokens. -/

theorem skipBlank_append {blanks : List Char} (h : blanks.all isBlank = true) (rest : List Char) :
    skipBlank (blanks ++ rest) = skipBlank rest := by
  rw [skipBlank, List.dropWhile_append_of_pos (by simpa using h)]
  rfl

theorem skipBlank_cons {c : Char} (h : isBlank c = false) (rest : List Char) :
    skipBlank (c :: rest) = c :: rest :=
  List.dropWhile_cons_of_neg (by simp [h])

/-! Numbers: decimal digits, up to what may follow them. -/

theorem isDigit_of_mem_toDigits {number : Nat} {c : Char} (h : c ∈ Nat.toDigits 10 number) :
    Text.isDigit c = true := by
  have hDigit := Nat.isDigit_of_mem_toDigits (by decide) (by decide) h
  simp only [Char.isDigit, Bool.and_eq_true, decide_eq_true_eq] at hDigit
  simp only [Text.isDigit, Bool.and_eq_true, decide_eq_true_eq]
  exact hDigit

theorem digitsValue?_toDigits (number : Nat) :
    Text.digitsValue? (Nat.toDigits 10 number) = some number := by
  have hAll : (Nat.toDigits 10 number).all Text.isDigit = true :=
    List.all_eq_true.mpr fun _ => isDigit_of_mem_toDigits
  have hSome : (Nat.toDigits 10 number).isEmpty = false := by
    simp [Nat.toDigits_ne_nil]
  rw [Text.digitsValue?, hAll, hSome]
  simp

theorem head?_toDigits_ne_zero {number : Nat} (h : number ≠ 0) :
    (Nat.toDigits 10 number).head? ≠ some '0' := by
  induction number using Nat.strongRecOn with
  | ind number ih =>
    -- The first digit of a longer number is that of the number without its last digit.
    by_cases hSmall : number < 10
    · rw [Nat.toDigits_of_lt_base hSmall]
      simp
      omega
    · rw [Nat.toDigits_of_base_le (by decide) (by omega), List.head?_append_of_ne_nil _ Nat.toDigits_ne_nil]
      exact ih (number / 10) (by omega) (by omega)

/-- What may follow a written number: a blank, a comma or the end of the object. -/
def EndsNumber (rest : List Char) : Prop :=
  ∀ c ∈ rest.head?, isBlank c ∨ c = ',' ∨ c = '\x7d'

theorem EndsNumber.not_digit {c : Char} {rest : List Char} (h : EndsNumber (c :: rest)) :
    Text.isDigit c = false ∧ c ≠ '.' ∧ c ≠ 'e' ∧ c ≠ 'E' := by
  have hHead := h c rfl
  simp only [isBlank, Bool.or_eq_true, beq_iff_eq] at hHead
  rcases hHead with (((rfl | rfl) | rfl) | rfl) | rfl | rfl <;> decide

theorem digits1_append {digits rest : List Char} (hSome : digits ≠ [])
    (hDigits : ∀ c ∈ digits, Text.isDigit c = true) (hEnd : EndsNumber rest) :
    digits1 (digits ++ rest) = some (digits, rest) := by
  have hRest : rest.takeWhile Text.isDigit = [] ∧ rest.dropWhile Text.isDigit = rest := by
    cases rest with
    | nil => exact ⟨rfl, rfl⟩
    | cons c rest => simp [hEnd.not_digit.1]
  rw [digits1, List.takeWhile_append_of_pos hDigits, List.dropWhile_append_of_pos hDigits, hRest.1, hRest.2,
    List.append_nil, if_neg (by simpa using hSome)]

theorem integerPart_toDigits (number : Nat) {rest : List Char} (hEnd : EndsNumber rest) :
    integerPart (Nat.toDigits 10 number ++ rest) = some (Nat.toDigits 10 number, rest) := by
  by_cases h : number = 0
  · subst h
    rfl
  · rw [integerPart.eq_def]
    split
    · rename_i hText
      have hHead := congrArg List.head? hText
      rw [List.head?_append_of_ne_nil _ Nat.toDigits_ne_nil] at hHead
      exact absurd hHead (head?_toDigits_ne_zero h)
    · exact digits1_append Nat.toDigits_ne_nil (fun _ => isDigit_of_mem_toDigits) hEnd

theorem numberLiteral_toDigits (number : Nat) {rest : List Char} (hEnd : EndsNumber rest) :
    numberLiteral (Nat.toDigits 10 number ++ rest) = some (Nat.toDigits 10 number, rest) := by
  have hFraction : fractionPart rest = some ([], rest) := by
    cases rest with
    | nil => rfl
    | cons c rest =>
      rw [fractionPart]
      rintro later hText
      exact hEnd.not_digit.2.1 (List.cons.inj hText).1
  have hExponent : exponentPart rest = some ([], rest) := by
    cases rest with
    | nil => rfl
    | cons c rest => simp [exponentPart, hEnd.not_digit.2]
  have hMagnitude : magnitude (Nat.toDigits 10 number ++ rest) = some (Nat.toDigits 10 number, rest) := by
    simp [magnitude, integerPart_toDigits number hEnd, hFraction, hExponent]
  rw [numberLiteral.eq_def]
  split
  · rename_i hText
    have hMember : '-' ∈ Nat.toDigits 10 number := by
      have hHead := congrArg List.head? hText
      rw [List.head?_append_of_ne_nil _ Nat.toDigits_ne_nil] at hHead
      exact List.mem_of_head? hHead
    cases isDigit_of_mem_toDigits hMember
  · exact hMagnitude

theorem value_of_digit {digit : Char} (h : Text.isDigit digit = true) (depth : Nat) (rest : List Char) :
    value (depth + 1) (digit :: rest) =
      (numberLiteral (digit :: rest)).map fun found => (.number found.1, found.2) := by
  have hOther : digit ≠ 'n' ∧ digit ≠ 't' ∧ digit ≠ 'f' ∧ digit ≠ '"' ∧ digit ≠ '[' ∧ digit ≠ '\x7b' := by
    refine ⟨?_, ?_, ?_, ?_, ?_, ?_⟩ <;> (rintro rfl; cases h)
  have hBlank : isBlank digit = false := by
    simp only [isBlank, Bool.or_eq_false_iff, beq_eq_false_iff_ne]
    refine ⟨⟨⟨?_, ?_⟩, ?_⟩, ?_⟩ <;> (rintro rfl; cases h)
  rw [value, skipBlank_cons hBlank]
  split <;> simp_all

/-! Members and objects. -/

theorem value_append {blanks : List Char} (h : blanks.all isBlank = true) (depth : Nat) (rest : List Char) :
    value (depth + 1) (blanks ++ rest) = value (depth + 1) rest := by
  rw [value, value, skipBlank_append h]

/-- What a member's value is read back as. -/
def Scalar.read : Scalar → Value
  | .number n => .number (Nat.toDigits 10 n)
  | .text content => .string (some content)

theorem natural?_read {number bound : Nat} (h : number < bound) :
    (Scalar.number number).read.natural? bound = some number := by
  rw [Scalar.read, Value.natural?, digitsValue?_toDigits, Option.filter_some, if_pos (by simpa using h)]

theorem value_write (scalar : Scalar) (depth : Nat) {rest : List Char} (hEnd : EndsNumber rest) :
    value (depth + 1) (scalar.write ++ rest) = some (scalar.read, rest) := by
  cases scalar with
  | number n =>
    obtain ⟨digit, digits, hDigits⟩ := List.exists_cons_of_ne_nil (Nat.toDigits_ne_nil (b := 10) (n := n))
    have hMember : digit ∈ Nat.toDigits 10 n := by simp [hDigits]
    rw [Scalar.write, hDigits, List.cons_append, value_of_digit (isDigit_of_mem_toDigits hMember), ← List.cons_append, ← hDigits,
      numberLiteral_toDigits n hEnd]
    rfl
  | text text =>
    have hQuote : Scalar.write (.text text) ++ rest = '"' :: (text.toList.flatMap escapeChar ++ '"' :: rest) := by
      simp [Scalar.write, quote]
    rw [hQuote]
    change (stringBody _).map _ = _
    rw [stringBody_quoted]
    rfl

/-- Blanks may stand anywhere around the members, but for a comma between each two. -/
structure Layout.Legible (layout : Layout) : Prop where
  start : layout.start.all isBlank = true
  afterColon : layout.afterColon.all isBlank = true
  between : ∃ blanks, layout.between = ',' :: blanks ∧ blanks.all isBlank = true
  stop : layout.stop.all isBlank = true

theorem Layout.legible_pretty : Layout.pretty.Legible :=
  ⟨by decide, by decide, ⟨_, rfl, by decide⟩, by decide⟩

def readMember (field : String × Scalar) : Option String × Value :=
  (some field.1, field.2.read)

variable {layout : Layout}

/-- A member is read up to what follows its value, which tells whether another one comes. -/
theorem members_writeMember (h : layout.Legible) (field : String × Scalar) (depth : Nat)
    {blanks rest : List Char} (hBlanks : blanks.all isBlank = true) (hEnd : EndsNumber rest) :
    members (depth + 2) (blanks ++ (writeMember layout field ++ rest)) =
      match skipBlank rest with
      | '\x7d' :: after => some ([readMember field], after)
      | ',' :: more => (members (depth + 1) more).map fun found => (readMember field :: found.1, found.2)
      | _ => none := by
  have hText : writeMember layout field ++ rest = '"' :: (field.1.toList.flatMap escapeChar ++
      '"' :: ':' :: (layout.afterColon ++ (field.2.write ++ rest))) := by
    simp [writeMember, quote]
  rw [members, skipBlank_append hBlanks, hText, skipBlank_cons (by decide)]
  simp only [stringBody_quoted, Option.bind_eq_bind, Option.bind_some]
  rw [skipBlank_cons (by decide)]
  simp only [value_append h.afterColon, value_write field.2 depth hEnd, Option.bind_some]
  rfl

/-- What stands behind a member: all later ones and the end of the object. -/
def writeRest (layout : Layout) : List (String × Scalar) → List Char
  | [] => layout.stop ++ ['\x7d']
  | field :: rest => layout.between ++ (writeMember layout field ++ writeRest layout rest)

theorem toList_writeObject (layout : Layout) (field : String × Scalar) (rest : List (String × Scalar)) :
    (writeObject layout (field :: rest)).toList =
      '\x7b' :: (layout.start ++ (writeMember layout field ++ writeRest layout rest)) := by
  have hRest : layout.between.intercalate (writeMember layout field :: rest.map (writeMember layout)) ++
      (layout.stop ++ ['\x7d']) = writeMember layout field ++ writeRest layout rest := by
    induction rest generalizing field with
    | nil => simp [writeRest]
    | cons next rest ih =>
      rw [List.map_cons, List.intercalate_cons_cons, writeRest, ← ih next]
      simp
  simp [writeObject, hRest]

theorem length_le_writeRest (layout : Layout) (fields : List (String × Scalar)) :
    fields.length ≤ (writeRest layout fields).length := by
  induction fields with
  | nil => exact Nat.zero_le _
  | cons field rest ih =>
    simp only [writeRest, writeMember, quote, List.length_cons, List.length_append]
    omega

theorem Layout.Legible.endsNumber (h : layout.Legible) (fields : List (String × Scalar)) :
    EndsNumber (writeRest layout fields) := by
  intro c hHead
  cases fields with
  | nil =>
    cases hStop : layout.stop with
    | nil =>
      rw [writeRest, hStop] at hHead
      exact .inr (.inr (Option.some_inj.mp hHead).symm)
    | cons first later =>
      have hBlanks := h.stop
      rw [hStop, List.all_cons, Bool.and_eq_true] at hBlanks
      rw [writeRest, hStop] at hHead
      exact .inl (Option.some_inj.mp hHead ▸ hBlanks.1)
  | cons field rest =>
    obtain ⟨blanks, hBetween, -⟩ := h.between
    rw [writeRest, hBetween] at hHead
    exact .inr (.inl (Option.some_inj.mp hHead).symm)

theorem members_write (h : layout.Legible) (field : String × Scalar) (rest : List (String × Scalar))
    (depth : Nat) {blanks : List Char} (hBlanks : blanks.all isBlank = true) :
    members (depth + rest.length + 2) (blanks ++ (writeMember layout field ++ writeRest layout rest)) =
      some (readMember field :: rest.map readMember, []) := by
  induction rest generalizing field blanks with
  | nil =>
    rw [members_writeMember h field _ hBlanks (h.endsNumber []), writeRest, skipBlank_append h.stop,
      skipBlank_cons (by decide)]
    rfl
  | cons next rest ih =>
    -- A member takes one unit of depth, and the blanks behind the comma go with the next one.
    obtain ⟨more, hBetween, hMore⟩ := h.between
    rw [List.length_cons, ← Nat.add_assoc, members_writeMember h field _ hBlanks (h.endsNumber _), writeRest, hBetween,
      List.cons_append, skipBlank_cons (by decide)]
    simp only [ih next hMore]
    rfl

/-- An object is read back as it was written. -/
theorem parse_writeObject (h : layout.Legible) (fields : List (String × Scalar)) :
    parse (writeObject layout fields) = some (.object (fields.map readMember)) := by
  cases fields with
  | nil => simp [parse, writeObject, value, skipBlank, isBlank]
  | cons field rest =>
    have hLength : rest.length < (writeObject layout (field :: rest)).toList.length := by
      rw [toList_writeObject]
      have hRest := length_le_writeRest layout rest
      simp only [List.length_cons, List.length_append]
      omega
    obtain ⟨depth, hDepth⟩ : ∃ depth, 2 * (writeObject layout (field :: rest)).toList.length + 2 =
        depth + rest.length + 2 + 1 :=
      ⟨2 * (writeObject layout (field :: rest)).toList.length - rest.length - 1, by omega⟩
    rw [parse, hDepth, toList_writeObject, value, skipBlank_cons (by decide)]
    have hOpen : skipBlank (layout.start ++ (writeMember layout field ++ writeRest layout rest)) =
        writeMember layout field ++ writeRest layout rest := by
      rw [skipBlank_append h.start]
      exact skipBlank_cons (by decide) _
    simp only [hOpen, members_write h field rest depth h.start]
    rw [writeMember, quote, List.cons_append]
    rfl

end Telemetry.Json
