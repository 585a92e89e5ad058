import Telemetry.Text.Decimal

/-! Internet addresses and their text: dotted decimal, and hexadecimal groups with the longest run of
zeros left out. -/
namespace Telemetry

structure Ipv4 where
  a : UInt8
  b : UInt8
  c : UInt8
  d : UInt8
  deriving DecidableEq, Repr

/-- Eight groups of sixteen bits. -/
structure Ipv6 where
  groups : Vector UInt16 8
  deriving DecidableEq, Repr

inductive IpAddress where
  | v4 (address : Ipv4)
  | v6 (address : Ipv6)
  deriving DecidableEq, Repr

/-- An address with a port; the larger addresses may be confined to a scope. -/
inductive SocketAddress where
  | v4 (address : Ipv4) (port : UInt16)
  | v6 (address : Ipv6) (port : UInt16) (scope : UInt32)
  deriving DecidableEq, Repr

def Ipv4.unspecified : Ipv4 := ⟨0, 0, 0, 0⟩

def Ipv4.render (address : Ipv4) : String :=
  s!"{address.a}.{address.b}.{address.c}.{address.d}"

namespace Ipv6

def groupText (group : UInt16) : String :=
  String.ofList (Nat.toDigits 16 group.toNat)

def groupsText (groups : List UInt16) : String :=
  ":".intercalate (groups.map groupText)

/-- Length of the run of zeros that a list begins with. -/
def leadingZeros (groups : List UInt16) : Nat :=
  (groups.takeWhile (· = 0)).length

/-- Start and length of the longest run of zeros; of runs of one length the first. -/
def longestZeros : List UInt16 → Nat × Nat
  | [] => (0, 0)
  | group :: rest =>
    let here := leadingZeros (group :: rest)
    let (start, length) := longestZeros rest
    if length ≤ here then (0, here) else (start + 1, length)

/-- The smaller address that one of the mapped range stands for. -/
def mapped? (address : Ipv6) : Option Ipv4 :=
  match address.groups.toList with
  | [0, 0, 0, 0, 0, 0xFFFF, high, low] =>
    some ⟨(high >>> 8).toUInt8, high.toUInt8, (low >>> 8).toUInt8, low.toUInt8⟩
  | _ => none

/-- A run of at least two zeros is written as two colons; mapped addresses end in dotted decimal. -/
def render (address : Ipv6) : String :=
  match address.mapped? with
  | some small => "::ffff:" ++ small.render
  | none =>
    let groups := address.groups.toList
    let (start, length) := longestZeros groups
    if 1 < length then
      groupsText (groups.take start) ++ "::" ++ groupsText (groups.drop (start + length))
    else groupsText groups

end Ipv6

def IpAddress.render : IpAddress → String
  | .v4 address => address.render
  | .v6 address => address.render

namespace SocketAddress

def new (ip : IpAddress) (port : UInt16) : SocketAddress :=
  match ip with
  | .v4 address => .v4 address port
  | .v6 address => .v6 address port 0

def ip : SocketAddress → IpAddress
  | .v4 address _ => .v4 address
  | .v6 address _ _ => .v6 address

def port : SocketAddress → UInt16
  | .v4 _ port => port
  | .v6 _ port _ => port

/-- The larger addresses stand in brackets, with their scope if they have one. -/
def render : SocketAddress → String
  | .v4 address port => s!"{address.render}:{port}"
  | .v6 address port scope =>
    if scope = 0 then s!"[{address.render}]:{port}" else s!"[{address.render}%{scope}]:{port}"

end SocketAddress

end Telemetry
