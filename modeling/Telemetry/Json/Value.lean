import Telemetry.Text.Decimal

/-! JSON texts: values, white space, strings and numbers as the grammar has them, and a reader that
accepts exactly one value and nothing after it. -/
namespace Telemetry.Json

/-- A JSON value. Numbers keep their spelling; a string whose escapes hold half a surrogate pair has a
correct spelling but no text. -/
inductive Value where
  | null
  | bool (value : Bool)
  | number (literal : List Char)
  | string (text : Option String)
  | array (items : List Value)
  | object (members : List (Option String × Value))
  deriving Repr, Inhabited

/-- The four characters that may stand between tokens. -/
def isBlank (c : Char) : Bool :=
  c == ' ' || c == '\t' || c == '\n' || c == '\r'

def skipBlank (text : List Char) : List Char :=
  text.dropWhile isBlank

/-- A written character of a string, or a 16-bit unit given by its number. -/
inductive Piece where
  | char (c : Char)
  | unit (code : Nat)
  deriving DecidableEq, Repr

def hexDigit? (c : Char) : Option Nat :=
  if Text.isDigit c then some (c.toNat - 48)
  else if 'a' ≤ c && c ≤ 'f' then some (c.toNat - 87)
  else if 'A' ≤ c && c ≤ 'F' then some (c.toNat - 55)
  else none

/-- Value of four hexadecimal digits. -/
def hexUnit? (a b c d : Char) : Option Nat := do
  return (((← hexDigit? a) * 16 + (← hexDigit? b)) * 16 + (← hexDigit? c)) * 16 + (← hexDigit? d)

/-- The character that a one-letter escape stands for. -/
def escaped? : Char → Option Char
  | '"' => some '"'
  | '\\' => some '\\'
  | '/' => some '/'
  | 'b' => some '\x08'
  | 'f' => some '\x0c'
  | 'n' => some '\n'
  | 'r' => some '\r'
  | 't' => some '\t'
  | _ => none

/-- The rest of a string after its opening quote, and what follows the closing one. -/
def pieces : List Char → Option (List Piece × List Char)
  | '"' :: rest => some ([], rest)
  | '\\' :: 'u' :: a :: b :: c :: d :: rest => do
    let code ← hexUnit? a b c d
    let (more, after) ← pieces rest
    return (.unit code :: more, after)
  | '\\' :: letter :: rest => do
    let c ← escaped? letter
    let (more, after) ← pieces rest
    return (.char c :: more, after)
  | c :: rest =>
    if c.toNat < 0x20 || c == '\\' then none
    else do
      let (more, after) ← pieces rest
      return (.char c :: more, after)
  | [] => none

def isHighUnit (code : Nat) : Bool :=
  0xD800 ≤ code && code < 0xDC00

def isLowUnit (code : Nat) : Bool :=
  0xDC00 ≤ code && code < 0xE000

/-- The text of a string, unless half a surrogate pair is left over. -/
def joinPieces : List Piece → Option (List Char)
  | [] => some []
  | .char c :: rest => (joinPieces rest).map (c :: ·)
  | .unit high :: .unit low :: rest =>
    if isHighUnit high then
      if isLowUnit low then
        (joinPieces rest).map (Char.ofNat (0x10000 + (high - 0xD800) * 0x400 + (low - 0xDC00)) :: ·)
      else none
    else if isLowUnit high then none
    else (joinPieces (.unit low :: rest)).map (Char.ofNat high :: ·)
  | .unit code :: rest =>
    if isHighUnit code || isLowUnit code then none
    else (joinPieces rest).map (Char.ofNat code :: ·)

/-- A string after its opening quote. -/
def stringBody (text : List Char) : Option (Option String × List Char) :=
  (pieces text).map fun (found, rest) => ((joinPieces found).map String.ofList, rest)

/-- At least one digit. -/
def digits1 (text : List Char) : Option (List Char × List Char) :=
  let digits := text.takeWhile Text.isDigit
  if digits.isEmpty then none else some (digits, text.dropWhile Text.isDigit)

/-- Digits before the point: a zero stands alone. -/
def integerPart : List Char → Option (List Char × List Char)
  | '0' :: rest => some (['0'], rest)
  | text => digits1 text

/-- Nothing, or a point and digits. -/
def fractionPart : List Char → Option (List Char × List Char)
  | '.' :: rest => (digits1 rest).map fun (digits, after) => ('.' :: digits, after)
  | text => some ([], text)

def exponentSign : List Char → List Char × List Char
  | '+' :: rest => (['+'], rest)
  | '-' :: rest => (['-'], rest)
  | text => ([], text)

/-- Nothing, or the letter e, a sign and digits. -/
def exponentPart : List Char → Option (List Char × List Char)
  | letter :: rest =>
    if letter == 'e' || letter == 'E' then
      let (sign, unsigned) := exponentSign rest
      (digits1 unsigned).map fun (digits, after) => (letter :: sign ++ digits, after)
    else some ([], letter :: rest)
  | [] => some ([], [])

def magnitude (text : List Char) : Option (List Char × List Char) := do
  let (whole, text) ← integerPart text
  let (fraction, text) ← fractionPart text
  let (exponent, text) ← exponentPart text
  return (whole ++ fraction ++ exponent, text)

/-- A number's spelling. -/
def numberLiteral : List Char → Option (List Char × List Char)
  | '-' :: rest => (magnitude rest).map fun (literal, after) => ('-' :: literal, after)
  | text => magnitude text

mutual

/-- One value with blanks before it. The depth bounds the recursion. -/
def value : Nat → List Char → Option (Value × List Char)
  | 0, _ => none
  | depth + 1, text =>
    match skipBlank text with
    | 'n' :: 'u' :: 'l' :: 'l' :: rest => some (.null, rest)
    | 't' :: 'r' :: 'u' :: 'e' :: rest => some (.bool true, rest)
    | 'f' :: 'a' :: 'l' :: 's' :: 'e' :: rest => some (.bool false, rest)
    | '"' :: rest => (stringBody rest).map fun (text, after) => (.string text, after)
    | '[' :: rest =>
      match skipBlank rest with
      | ']' :: after => some (.array [], after)
      | _ => (items depth rest).map fun (found, after) => (.array found, after)
    | '\x7b' :: rest =>
      match skipBlank rest with
      | '\x7d' :: after => some (.object [], after)
      | _ => (members depth rest).map fun (found, after) => (.object found, after)
    | text => (numberLiteral text).map fun (literal, after) => (.number literal, after)

/-- The items of an array up to its end. -/
def items : Nat → List Char → Option (List Value × List Char)
  | 0, _ => none
  | depth + 1, text => do
    let (first, rest) ← value depth text
    match skipBlank rest with
    | ']' :: after => some ([first], after)
    | ',' :: more => (items depth more).map fun (found, after) => (first :: found, after)
    | _ => none

/-- The members of an object up to its end. -/
def members : Nat → List Char → Option (List (Option String × Value) × List Char)
  | 0, _ => none
  | depth + 1, text =>
    match skipBlank text with
    | '"' :: rest => do
      let (key, rest) ← stringBody rest
      match skipBlank rest with
      | ':' :: rest => do
        let (found, rest) ← value depth rest
        match skipBlank rest with
        | '\x7d' :: after => some ([(key, found)], after)
        | ',' :: more => (members depth more).map fun (later, after) => ((key, found) :: later, after)
        | _ => none
      | _ => none
    | _ => none

end

/-- Reads a whole text. Every second step of the recursion consumes a character, which bounds its
depth. -/
def parse (text : String) : Option Value :=
  let chars := text.toList
  match value (2 * chars.length + 2) chars with
  | some (found, rest) => if (skipBlank rest).isEmpty then some found else none
  | none => none

namespace Value

/-- A plain integer below `bound`: digits only, neither sign nor point nor exponent. -/
def natural? (bound : Nat) : Value → Option Nat
  | .number literal => (Text.digitsValue? literal).filter (· < bound)
  | _ => none

def text? : Value → Option String
  | .string text => text
  | _ => none

end Value

end Telemetry.Json
