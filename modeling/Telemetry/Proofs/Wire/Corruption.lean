import Telemetry.Proofs.Wire.Codec
import Telemetry.Proofs.Wire.Remainder

/-! Packets with a few bits changed. All packets of one length have the same remainder, start marker
included, so a change that shows in the remainder leads to no other packet. -/
namespace Telemetry.Packet

theorem remainder_ofDecoded (decoded : Decoded) : Crc8.remainder (ofDecoded decoded) =
    Crc8.shifts (8 * ((ofDecoded decoded).length - 1)) (Crc8.absorb 0 startMarker) := by
  let body := UInt8.ofNat (decoded.payload.encode.length + 1) :: decoded.nodeId :: decoded.counter ::
    decoded.payload.encode
  have hPacket : ofDecoded decoded = startMarker :: (body ++ [Crc8.remainder body]) := rfl
  have hTail : Crc8.remainder (body ++ [Crc8.remainder body]) = 0 := by
    rw [Crc8.remainder_concat, Crc8.absorb, UInt8.xor_self]
    rfl
  have hMarker : Crc8.absorb 0 startMarker = 0 ^^^ Crc8.absorb 0 startMarker := UInt8.zero_xor.symm
  rw [hPacket, Crc8.remainder, List.foldl_cons, hMarker, Crc8.foldl_absorb_xor]
  rw [Crc8.remainder] at hTail
  rw [hTail, UInt8.zero_xor, UInt8.zero_xor, List.length_cons, Nat.add_sub_cancel]

theorem length_ofDecoded_le (decoded : Decoded) : (ofDecoded decoded).length ≤ 13 := by
  have hLength := decoded.payload.length_encode
  simp only [ofDecoded, assemble, List.length_append, List.length_cons, List.length_nil, hLength]
  cases decoded.payload <;> simp

/-- Whatever a raw or threshold packet holds, with one, two or three of its bits changed, wherever they
are, it is no packet. -/
theorem flipped_rejected (output : OutputFrame) (bits : List Nat) (hDistinct : bits.Nodup)
    (hWithin : ∀ bit ∈ bits, bit < 8 * (ofOutput output).length) (hSome : bits ≠ [])
    (hFew : bits.length ≤ 3) : ∃ error, parse ((ofOutput output).flips bits) = .error error := by
  obtain ⟨sent, hSent⟩ : ∃ sent, ofOutput output = ofDecoded sent := by
    cases output with
    | raw sample => exact ⟨_, rfl⟩
    | threshold frame => exact ⟨_, rfl⟩
  rw [hSent] at hWithin ⊢
  cases hParse : parse ((ofDecoded sent).flips bits) with
  | error error => exact ⟨error, rfl⟩
  | ok received =>
    have hReceived := eq_ofDecoded_of_parse hParse
    have hLength : (ofDecoded received).length = (ofDecoded sent).length := by
      rw [← hReceived, Bytes.length_flips]
    have hRemainder : Crc8.remainder ((ofDecoded sent).flips bits) = Crc8.remainder (ofDecoded sent) := by
      rw [hReceived, remainder_ofDecoded, remainder_ofDecoded, hLength]
    have hRoom : 8 * (ofDecoded sent).length ≤ 127 := by
      have := length_ofDecoded_le sent
      omega
    exact absurd hRemainder (Crc8.remainder_flips_ne hRoom hDistinct hWithin hSome hFew)

/-- The highest bit of the marker, the lowest of the length and one of the checksum, all changed. -/
theorem flipped_rejected_spread :
    let frame : ThresholdFrame := ⟨5, 7, 0x0A⟩
    [7, 8, 43].Nodup ∧ (∀ bit ∈ [7, 8, 43], bit < 8 * (ofOutput (.threshold frame)).length) ∧
    ∃ error, parse ((ofOutput (.threshold frame)).flips [7, 8, 43]) = .error error := by
  intro frame
  have hWithin : ∀ bit ∈ [7, 8, 43], bit < 8 * (ofOutput (.threshold frame)).length := by decide +kernel
  exact ⟨by decide, hWithin, flipped_rejected (.threshold frame) [7, 8, 43] (by decide) hWithin
    (by decide) (by decide)⟩

end Telemetry.Packet
