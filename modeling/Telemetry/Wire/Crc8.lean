import Telemetry.Basic

/-! The packet checksum: remainders modulo x⁸ + x² + x + 1, most significant bit first, from a zero
register and without a final mask. -/
namespace Telemetry.Crc8

/-- One place to the left; a bit that falls out is replaced by x² + x + 1. -/
def shift (register : UInt8) : UInt8 :=
  if register &&& 0x80 = 0 then register <<< 1 else (register <<< 1) ^^^ 0x07

def shifts : Nat → UInt8 → UInt8
  | 0, register => register
  | n + 1, register => shifts n (shift register)

/-- Takes one byte into the register. -/
def absorb (register byte : UInt8) : UInt8 :=
  shifts 8 (register ^^^ byte)

/-- Remainder of a whole byte string. -/
def remainder (bytes : Bytes) : UInt8 :=
  bytes.foldl absorb 0

/-- A packet's checksum leaves out the start marker and the checksum's own slot. -/
def covered (packet : Bytes) : Bytes :=
  packet.tail.dropLast

/-- Checksum of a packet whose last byte is the slot, whatever the slot holds. -/
def checksum (packet : Bytes) : UInt8 :=
  remainder (covered packet)

/-- Whether the last byte is the checksum of the bytes before it. -/
def verify (packet : Bytes) : Bool :=
  match packet.getLast? with
  | some stored => 3 ≤ packet.length && checksum packet == stored
  | none => false

theorem remainder_nil : remainder [] = 0 := rfl

theorem remainder_concat (bytes : Bytes) (byte : UInt8) :
    remainder (bytes ++ [byte]) = absorb (remainder bytes) byte := by
  simp [remainder]

theorem covered_of_length_lt {packet : Bytes} (h : packet.length < 3) : covered packet = [] := by
  match packet, h with
  | [], _ => rfl
  | [_], _ => rfl
  | [_, _], _ => rfl

/-- The slot's content plays no part. -/
theorem checksum_concat (marker : UInt8) (body : Bytes) (slot : UInt8) :
    checksum (marker :: body ++ [slot]) = remainder body := by
  simp [checksum, covered]

end Telemetry.Crc8
