import Telemetry.Frame
import Telemetry.Text.Decimal
import Telemetry.Wire.Crc8

/-! Packets on the wire: start marker, length, node id, counter, payload and checksum. Framing and
parsing are inverse to each other on raw and threshold payloads. -/
namespace Telemetry

/-- First byte of every packet. -/
def startMarker : UInt8 := 0x53

/-- Bytes around the payload that the length byte does not count. -/
def frameOverhead : Nat := 4

/-- Length byte of a threshold packet. -/
def thresholdPayloadLength : UInt8 := 2

/-- Length byte of a raw packet. -/
def rawPayloadLength : UInt8 := 9

/-- A word is sent low byte first. -/
def wordBytes (word : UInt16) : Bytes :=
  [word.toUInt8, (word >>> 8).toUInt8]

def wordOfBytes (low high : UInt8) : UInt16 :=
  low.toUInt16 ||| (high.toUInt16 <<< 8)

/-- What a packet carries. -/
inductive Payload where
  | raw (data : Reading)
  | threshold (bitmask : UInt8)
  deriving DecidableEq, Repr

/-- A packet's content once marker, length and checksum are accounted for. -/
structure Decoded where
  nodeId : UInt8
  counter : UInt8
  payload : Payload
  deriving DecidableEq, Repr

/-- Why a buffer is no packet. -/
inductive PacketError where
  | truncated (length : Nat)
  | badStartMarker (found : UInt8)
  | lengthMismatch (declared : UInt8) (actual : Nat)
  | checksumMismatch (expected actual : UInt8)
  | unknownPayload (declared : UInt8)
  deriving DecidableEq, Repr

def PacketError.message : PacketError → String
  | .truncated length => s!"Packet too short: {length} bytes"
  | .badStartMarker found => "Bad start marker: 0x" ++ Text.hexByte found
  | .lengthMismatch declared actual =>
    s!"Length mismatch: header says {declared} payload bytes, packet is {actual} bytes"
  | .checksumMismatch expected actual =>
    "Checksum mismatch: expected 0x" ++ Text.hexByte expected ++ ", got 0x" ++ Text.hexByte actual
  | .unknownPayload declared => s!"Unknown payload length: {declared}"

namespace Payload

/-- The payload's bytes after the counter. -/
def encode : Payload → Bytes
  | .raw data => data.toList.flatMap wordBytes
  | .threshold bitmask => [bitmask]

def decode (declared : UInt8) : Bytes → Except PacketError Payload
  | [bitmask] => .ok (.threshold bitmask)
  | [l0, h0, l1, h1, l2, h2, l3, h3] =>
    .ok (.raw #v[wordOfBytes l0 h0, wordOfBytes l1 h1, wordOfBytes l2 h2, wordOfBytes l3 h3])
  | _ => .error (.unknownPayload declared)

end Payload

namespace Packet

/-- Header, payload bytes and checksum; the length byte counts the counter and the payload. -/
def assemble (nodeId counter : UInt8) (data : Bytes) : Bytes :=
  let body := UInt8.ofNat (data.length + 1) :: nodeId :: counter :: data
  startMarker :: body ++ [Crc8.remainder body]

def ofDecoded (decoded : Decoded) : Bytes :=
  assemble decoded.nodeId decoded.counter decoded.payload.encode

def ofSample (sample : SampleFrame) : Bytes :=
  ofDecoded ⟨sample.nodeId, sample.counter.toUInt8, .raw sample.data⟩

def ofThreshold (frame : ThresholdFrame) : Bytes :=
  ofDecoded ⟨frame.nodeId, frame.counter, .threshold frame.bitmask⟩

def ofOutput : OutputFrame → Bytes
  | .raw sample => ofSample sample
  | .threshold frame => ofThreshold frame

/-- Checks length, marker, declared length, checksum and payload shape, in this order. -/
def parse (buffer : Bytes) : Except PacketError Decoded :=
  match buffer with
  | marker :: declared :: nodeId :: counter :: first :: second :: rest =>
    let expected := Crc8.checksum buffer
    let actual := (second :: rest).getLast (by simp)
    if marker ≠ startMarker then .error (.badStartMarker marker)
    else if declared.toNat + frameOverhead ≠ buffer.length then
      .error (.lengthMismatch declared buffer.length)
    else if expected ≠ actual then .error (.checksumMismatch expected actual)
    else (Payload.decode declared (first :: (second :: rest).dropLast)).map (⟨nodeId, counter, ·⟩)
  | _ => .error (.truncated buffer.length)

/-- The last byte of a packet, where its checksum stands. -/
def trailer (packet : Bytes) : UInt8 :=
  packet.getLastD 0

end Packet

end Telemetry
