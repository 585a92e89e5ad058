import Telemetry.Text.Decimal

/-! Flat JSON objects as text, on one line or with one member a line. -/
namespace Telemetry.Json

/-- What a member of a written object holds. -/
inductive Scalar where
  | number (value : Nat)
  | text (value : String)
  deriving DecidableEq, Repr

/-- Control characters have escapes; quotes and backslashes are marked; all else stands for itself. -/
def escapeChar (c : Char) : List Char :=
  if c = '"' then ['\\', '"']
  else if c = '\\' then ['\\', '\\']
  else if c = '\x08' then ['\\', 'b']
  else if c = '\t' then ['\\', 't']
  else if c = '\n' then ['\\', 'n']
  else if c = '\x0c' then ['\\', 'f']
  else if c = '\r' then ['\\', 'r']
  else if c.toNat < 0x20 then
    ['\\', 'u', '0', '0', Nat.digitChar (c.toNat / 16), Nat.digitChar (c.toNat % 16)]
  else [c]

def quote (text : String) : List Char :=
  '"' :: text.toList.flatMap escapeChar ++ ['"']

def Scalar.write : Scalar → List Char
  | .number value => Nat.toDigits 10 value
  | .text value => quote value

/-- What stands around the members. -/
structure Layout where
  start : List Char
  afterColon : List Char
  between : List Char
  stop : List Char

/-- Everything on one line without blanks. -/
def Layout.compact : Layout :=
  ⟨[], [], [','], []⟩

/-- One member a line, indented by two blanks. -/
def Layout.pretty : Layout :=
  ⟨['\n', ' ', ' '], [' '], [',', '\n', ' ', ' '], ['\n']⟩

def writeMember (layout : Layout) (field : String × Scalar) : List Char :=
  quote field.1 ++ ':' :: layout.afterColon ++ field.2.write

/-- An object with its members in the given order. -/
def writeObject (layout : Layout) (fields : List (String × Scalar)) : String :=
  if fields.isEmpty then "\x7b\x7d"
  else String.ofList ('\x7b' :: layout.start ++
    layout.between.intercalate (fields.map (writeMember layout)) ++ layout.stop ++ ['\x7d'])

end Telemetry.Json
