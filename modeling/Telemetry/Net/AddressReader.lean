import Telemetry.Json.Value
import Telemetry.Net.Address

/-! Reading addresses. Each reader takes what it can from the front of a text and gives the rest. -/
namespace Telemetry.AddressReader

/-- What was read, and what follows it. -/
abbrev Reader (α : Type) := List Char → Option (α × List Char)

/-- One given character. -/
def expect (c : Char) : List Char → Option (List Char)
  | [] => none
  | head :: rest => if head = c then some rest else none

/-- Value of a digit below the radix. -/
def digit? (radix : Nat) (c : Char) : Option Nat :=
  (Json.hexDigit? c).filter (· < radix)

def digitsValue (radix : Nat) (digits : List Char) : Nat :=
  digits.foldl (fun value c => value * radix + (digit? radix c).getD 0) 0

/-- How numbers are written in one place of an address. -/
structure NumberForm where
  radix : Nat
  maxDigits : Option Nat
  /-- Digits may follow a leading zero. -/
  zeroPadded : Bool
  bound : Nat

def octetForm : NumberForm := ⟨10, some 3, false, 256⟩

def groupForm : NumberForm := ⟨16, some 4, true, 65536⟩

def portForm : NumberForm := ⟨10, none, true, UInt16.size⟩

def scopeForm : NumberForm := ⟨10, none, true, UInt32.size⟩

/-- All digits at the front of the text, if together they are a number of the form. -/
def number (form : NumberForm) : Reader Nat := fun text =>
  let isDigit (c : Char) : Bool := (digit? form.radix c).isSome
  let digits := text.takeWhile isDigit
  let value := digitsValue form.radix digits
  let fits := match form.maxDigits with
    | some count => digits.length ≤ count
    | none => true
  let padded := digits.head? = some '0' && 1 < digits.length
  if digits.isEmpty || !fits || (padded && !form.zeroPadded) || form.bound ≤ value then none
  else some (value, text.dropWhile isDigit)

/-- Four octets between points. -/
def ipv4 : Reader Ipv4 := fun text => do
  let (a, text) ← number octetForm text
  let (b, text) ← number octetForm (← expect '.' text)
  let (c, text) ← number octetForm (← expect '.' text)
  let (d, text) ← number octetForm (← expect '.' text)
  return (⟨.ofNat a, .ofNat b, .ofNat c, .ofNat d⟩, text)

/-- Two groups for four octets. -/
def groupsOfIpv4 (address : Ipv4) : List UInt16 :=
  [address.a.toUInt16 <<< 8 ||| address.b.toUInt16, address.c.toUInt16 <<< 8 ||| address.d.toUInt16]

/-- Groups between colons, as many as there are but no more than so many, and whether the last two came
from dotted decimal, which needs room for two. -/
def groups : Bool → Nat → List Char → (List UInt16 × Bool) × List Char
  | _, 0, text => (([], false), text)
  | first, room + 1, text =>
    let item := if first then some text else expect ':' text
    match if 0 < room then item.bind ipv4 else none with
    | some (address, rest) => ((groupsOfIpv4 address, true), rest)
    | none =>
      match item.bind (number groupForm) with
      | none => (([], false), text)
      | some (group, rest) =>
        let ((later, dotted), rest) := groups false room rest
        ((.ofNat group :: later, dotted), rest)

/-- Eight groups, or fewer around two colons that stand for at least one group of zeros. -/
def ipv6 : Reader Ipv6 := fun text =>
  let ofList (found : List UInt16) : Ipv6 := ⟨Vector.ofFn fun i => found.getD i.val 0⟩
  let ((head, dotted), rest) := groups true 8 text
  if head.length = 8 then some (ofList head, rest)
  else if dotted then none
  else do
    let rest ← expect ':' (← expect ':' rest)
    let ((tail, _), rest) := groups true (7 - head.length) rest
    return (ofList (head ++ List.replicate (8 - head.length - tail.length) 0 ++ tail), rest)

def ip : Reader IpAddress := fun text =>
  match ipv4 text with
  | some (address, rest) => some (.v4 address, rest)
  | none => (ipv6 text).map fun (address, rest) => (.v6 address, rest)

def port : Reader UInt16 := fun text => do
  let (value, rest) ← number portForm (← expect ':' text)
  return (.ofNat value, rest)

/-- A percent sign and a number, or nothing. -/
def scope (text : List Char) : UInt32 × List Char :=
  match (expect '%' text).bind (number scopeForm) with
  | some (value, rest) => (.ofNat value, rest)
  | none => (0, text)

def socketV4 : Reader SocketAddress := fun text => do
  let (address, rest) ← ipv4 text
  let (port, rest) ← port rest
  return (.v4 address port, rest)

def socketV6 : Reader SocketAddress := fun text => do
  let (address, rest) ← ipv6 (← expect '[' text)
  let (scope, rest) := scope rest
  let (port, rest) ← port (← expect ']' rest)
  return (.v6 address port scope, rest)

def socket : Reader SocketAddress := fun text =>
  (socketV4 text).or (socketV6 text)

/-- What a reader makes of a whole text. -/
def whole {α : Type} (reader : Reader α) (text : String) : Option α :=
  match reader text.toList with
  | some (found, []) => some found
  | _ => none

end Telemetry.AddressReader

namespace Telemetry

def IpAddress.parse (text : String) : Option IpAddress :=
  AddressReader.whole AddressReader.ip text

def SocketAddress.parse (text : String) : Option SocketAddress :=
  AddressReader.whole AddressReader.socket text

end Telemetry
