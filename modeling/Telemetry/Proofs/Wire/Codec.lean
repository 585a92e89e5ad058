import Telemetry.Wire.Packet

/-! Framing and parsing are exact inverses, and every accepted buffer is a framed packet. The reader by
position has an outcome for a position past the end; no buffer leads to it. -/
namespace Telemetry

private theorem toNat_wordOfBytes (low high : UInt8) :
    (wordOfBytes low high).toNat = low.toNat + 256 * high.toNat := by
  have hl : low.toNat < 2 ^ 8 := low.toNat_lt
  have hh : high.toNat < 256 := high.toNat_lt
  have h8 : UInt16.toNat 8 % 16 = 8 := rfl
  have hs : high.toNat <<< 8 % 2 ^ 16 = high.toNat <<< 8 := by
    rw [Nat.shiftLeft_eq]
    omega
  simp only [wordOfBytes, UInt16.toNat_or, UInt16.toNat_shiftLeft, UInt8.toNat_toUInt16, h8, hs]
  rw [Nat.or_comm, ← Nat.shiftLeft_add_eq_or_of_lt hl, Nat.shiftLeft_eq]
  omega

private theorem toNat_highByte (word : UInt16) : (word >>> 8).toUInt8.toNat = word.toNat / 256 := by
  have hw : word.toNat < 65536 := word.toNat_lt
  have h8 : UInt16.toNat 8 % 16 = 8 := rfl
  rw [UInt16.toNat_toUInt8, UInt16.toNat_shiftRight, h8, Nat.shiftRight_eq_div_pow]
  omega

theorem wordOfBytes_wordBytes (word : UInt16) :
    wordOfBytes word.toUInt8 (word >>> 8).toUInt8 = word := by
  apply UInt16.toNat_inj.mp
  rw [toNat_wordOfBytes, toNat_highByte, UInt16.toNat_toUInt8]
  omega

theorem wordBytes_wordOfBytes (low high : UInt8) : wordBytes (wordOfBytes low high) = [low, high] := by
  have hl : low.toNat < 256 := low.toNat_lt
  simp only [wordBytes, List.cons.injEq, and_true]
  constructor <;> apply UInt8.toNat_inj.mp
  · rw [UInt16.toNat_toUInt8, toNat_wordOfBytes]
    omega
  · rw [toNat_highByte, toNat_wordOfBytes]
    omega

namespace Payload

/-- A reading's payload channel by channel, low byte first. -/
theorem encode_raw (c0 c1 c2 c3 : UInt16) :
    encode (.raw #v[c0, c1, c2, c3]) = wordBytes c0 ++ wordBytes c1 ++ wordBytes c2 ++ wordBytes c3 := by
  simp [encode]

private theorem reading_cases (data : Reading) :
    ∃ c0 c1 c2 c3 : UInt16, data = #v[c0, c1, c2, c3] := by
  obtain ⟨⟨values⟩, h⟩ := data
  match values, h with
  | [c0, c1, c2, c3], _ => exact ⟨c0, c1, c2, c3, rfl⟩

theorem length_encode (payload : Payload) :
    payload.encode.length = match payload with | .raw _ => 8 | .threshold _ => 1 := by
  cases payload with
  | raw data =>
    obtain ⟨c0, c1, c2, c3, rfl⟩ := reading_cases data
    simp [encode_raw, wordBytes]
  | threshold bitmask => rfl

theorem decode_encode (declared : UInt8) (payload : Payload) :
    decode declared payload.encode = .ok payload := by
  cases payload with
  | raw data =>
    obtain ⟨c0, c1, c2, c3, rfl⟩ := reading_cases data
    simp [encode_raw, wordBytes, decode, wordOfBytes_wordBytes]
  | threshold bitmask => rfl

theorem eq_encode_of_decode {declared : UInt8} {bytes : Bytes} {payload : Payload}
    (h : decode declared bytes = .ok payload) : bytes = payload.encode := by
  unfold decode at h
  split at h
  · cases h
    rfl
  · cases h
    simp [encode_raw, wordBytes_wordOfBytes]
  · cases h

end Payload

namespace Packet

/-- Framing with an empty slot first: the checksum then takes the place of the slot. -/
theorem assemble_eq_slot_filled (nodeId counter : UInt8) (data : Bytes) :
    let blank := startMarker :: UInt8.ofNat (data.length + 1) :: nodeId :: counter :: data ++ [0]
    assemble nodeId counter data = blank.dropLast ++ [Crc8.checksum blank] := by
  intro blank
  have hc : Crc8.checksum blank =
      Crc8.remainder (UInt8.ofNat (data.length + 1) :: nodeId :: counter :: data) :=
    Crc8.checksum_concat startMarker _ 0
  rw [hc]
  simp only [blank, List.dropLast_concat]
  rfl

theorem parse_short {buffer : Bytes} (h : buffer.length < frameOverhead + 2) :
    parse buffer = .error (.truncated buffer.length) := by
  unfold parse
  split
  · simp [frameOverhead] at h
    omega
  · rfl

private theorem exists_framed {buffer : Bytes} (h : frameOverhead + 2 ≤ buffer.length) :
    ∃ marker declared nodeId counter data slot, data ≠ [] ∧
      buffer = marker :: declared :: nodeId :: counter :: (data ++ [slot]) := by
  match buffer, h with
  | marker :: declared :: nodeId :: counter :: first :: second :: rest, _ =>
    refine ⟨marker, declared, nodeId, counter, first :: (second :: rest).dropLast,
      (second :: rest).getLast (by simp), by simp, ?_⟩
    rw [List.cons_append, List.dropLast_concat_getLast]

/-- The checks of a buffer with room for a payload, in their order. -/
theorem parse_framed (marker declared nodeId counter slot : UInt8) {data : Bytes} (h : data ≠ []) :
    parse (marker :: declared :: nodeId :: counter :: (data ++ [slot])) =
      if marker ≠ startMarker then .error (.badStartMarker marker)
      else if declared.toNat + frameOverhead ≠ data.length + 5 then
        .error (.lengthMismatch declared (data.length + 5))
      else if Crc8.remainder (declared :: nodeId :: counter :: data) ≠ slot then
        .error (.checksumMismatch (Crc8.remainder (declared :: nodeId :: counter :: data)) slot)
      else (Payload.decode declared data).map (⟨nodeId, counter, ·⟩) := by
  obtain ⟨first, rest, rfl⟩ := List.exists_cons_of_ne_nil h
  have hc : Crc8.checksum (marker :: declared :: nodeId :: counter :: (first :: rest ++ [slot])) =
      Crc8.remainder (declared :: nodeId :: counter :: first :: rest) :=
    Crc8.checksum_concat marker (declared :: nodeId :: counter :: first :: rest) slot
  obtain ⟨second, tail, ht⟩ := List.exists_cons_of_ne_nil (List.append_ne_nil_of_right_ne_nil rest
    (List.cons_ne_nil slot []))
  simp only [List.cons_append] at hc ⊢
  rw [ht] at hc ⊢
  simp only [parse, hc]
  simp only [← ht, List.getLast_append, List.dropLast_concat, List.length_cons, List.length_append]
  rfl

theorem parse_ofDecoded (decoded : Decoded) : parse (ofDecoded decoded) = .ok decoded := by
  obtain ⟨nodeId, counter, payload⟩ := decoded
  have hl := payload.length_encode
  have hn : payload.encode ≠ [] := by
    intro he
    rw [he] at hl
    cases payload <;> simp at hl
  have hd : (UInt8.ofNat (payload.encode.length + 1)).toNat = payload.encode.length + 1 := by
    rw [hl]
    cases payload <;> rfl
  change parse (startMarker :: UInt8.ofNat (payload.encode.length + 1) :: nodeId :: counter ::
    (payload.encode ++ [Crc8.remainder _])) = _
  rw [parse_framed _ _ _ _ _ hn, hd, Payload.decode_encode]
  simp [frameOverhead, Except.map]

/-- A buffer that passes every check is the packet of what it decodes to. -/
theorem eq_ofDecoded_of_parse {buffer : Bytes} {decoded : Decoded} (h : parse buffer = .ok decoded) :
    buffer = ofDecoded decoded := by
  by_cases hs : buffer.length < frameOverhead + 2
  · rw [parse_short hs] at h
    cases h
  · obtain ⟨marker, declared, nodeId, counter, data, slot, hn, rfl⟩ := exists_framed (Nat.le_of_not_lt hs)
    rw [parse_framed _ _ _ _ _ hn] at h
    split at h
    · cases h
    split at h
    · cases h
    split at h
    · cases h
    rename_i hm hl hc
    cases hp : Payload.decode declared data with
    | error e => rw [hp] at h; cases h
    | ok payload =>
      rw [hp] at h
      cases h
      have hd : UInt8.ofNat (data.length + 1) = declared := by
        have : data.length + 1 = declared.toNat := by
          simp only [frameOverhead] at hl
          omega
        rw [this, UInt8.ofNat_toNat]
      have he := Payload.eq_encode_of_decode hp
      rw [ofDecoded, assemble, ← he, hd]
      rw [Decidable.not_not.mp hm, Decidable.not_not.mp hc]
      rfl

theorem parse_eq_ok_iff {buffer : Bytes} {decoded : Decoded} :
    parse buffer = .ok decoded ↔ buffer = ofDecoded decoded :=
  ⟨eq_ofDecoded_of_parse, fun h => h ▸ parse_ofDecoded decoded⟩

/-- The second byte of a packet fixes how long it is. -/
theorem length_ofDecoded (decoded : Decoded) :
    ∃ declared : UInt8, (ofDecoded decoded)[1]? = some declared ∧
      (ofDecoded decoded).length = declared.toNat + frameOverhead := by
  have hl := decoded.payload.length_encode
  refine ⟨UInt8.ofNat (decoded.payload.encode.length + 1), rfl, ?_⟩
  simp only [ofDecoded, assemble, List.length_append, List.length_cons, List.length_nil, hl,
    frameOverhead]
  cases decoded.payload <;> rfl

/-- No packet is the beginning of another. -/
theorem ofDecoded_prefix_eq {a b : Decoded} (h : ofDecoded a <+: ofDecoded b) :
    ofDecoded a = ofDecoded b := by
  obtain ⟨declared, ha, hla⟩ := length_ofDecoded a
  obtain ⟨other, hb, hlb⟩ := length_ofDecoded b
  obtain ⟨rest, hr⟩ := h
  have hs : (ofDecoded b)[1]? = some declared := by
    rw [← hr, List.getElem?_append_left (by rw [hla, frameOverhead]; omega), ha]
  have hd : declared = other := Option.some.inj (hs.symm.trans hb)
  exact List.IsPrefix.eq_of_length ⟨rest, hr⟩ (by rw [hla, hlb, hd])

/-! Reading by position. -/

/-- Bytes from one position up to another; nothing unless both lie within the buffer, in this order. -/
def slice? (buffer : Bytes) (first past : Nat) : Option Bytes :=
  if first ≤ past ∧ past ≤ buffer.length then some ((buffer.drop first).take (past - first)) else none

/-- Words low byte first; an odd byte at the end is left out. -/
def words : Bytes → List UInt16
  | low :: high :: rest => wordOfBytes low high :: words rest
  | _ => []

/-- Checksum of a packet buffer; nothing when a position it needs is past the end. -/
def checksumAt? (buffer : Bytes) : Option UInt8 :=
  if buffer.length < 3 then some (Crc8.remainder [])
  else (slice? buffer 1 (buffer.length - 1)).map Crc8.remainder

/-- The payload that the declared length asks for; channels without a word read zero. -/
def payloadAt? (declared : UInt8) (data : Bytes) : Option (Except PacketError Payload) :=
  if declared = thresholdPayloadLength then data[0]?.map fun bitmask => .ok (.threshold bitmask)
  else if declared = rawPayloadLength then
    some (.ok (.raw (.ofFn fun channel => (words data).getD channel 0)))
  else some (.error (.unknownPayload declared))

/-- The same checks with every byte read by its position; nothing when a position is past the end. -/
def parseAt? (buffer : Bytes) : Option (Except PacketError Decoded) :=
  if buffer.length < frameOverhead + 2 then some (.error (.truncated buffer.length))
  else do
    let marker ← buffer[0]?
    if marker ≠ startMarker then some (.error (.badStartMarker marker))
    else do
      let declared ← buffer[1]?
      if declared.toNat + frameOverhead ≠ buffer.length then
        some (.error (.lengthMismatch declared buffer.length))
      else do
        let expected ← checksumAt? buffer
        let actual ← buffer[buffer.length - 1]?
        if expected ≠ actual then some (.error (.checksumMismatch expected actual))
        else do
          let nodeId ← buffer[2]?
          let counter ← buffer[3]?
          let data ← slice? buffer 4 (buffer.length - 1)
          let payload ← payloadAt? declared data
          some (payload.map (⟨nodeId, counter, ·⟩))

private theorem payloadAt?_eq {declared : UInt8} {data : Bytes} (h : declared.toNat = data.length + 1) :
    payloadAt? declared data = some (Payload.decode declared data) := by
  have hd : declared = UInt8.ofNat (data.length + 1) := by rw [← h, UInt8.ofNat_toNat]
  unfold Payload.decode
  split
  · subst hd
    rfl
  · subst hd
    rfl
  · rename_i hone height
    have h2 : declared ≠ thresholdPayloadLength := by
      rintro rfl
      have hl : data.length = 1 := (Nat.succ.inj h).symm
      obtain ⟨bitmask, rfl⟩ := List.length_eq_one_iff.mp hl
      exact hone bitmask rfl
    have h9 : declared ≠ rawPayloadLength := by
      rintro rfl
      have hl : data.length = 8 := (Nat.succ.inj h).symm
      match data, hl with
      | [l0, h0, l1, h1, l2, h2, l3, h3], _ => exact height l0 h0 l1 h1 l2 h2 l3 h3 rfl
    rw [payloadAt?, if_neg h2, if_neg h9]

/-- Every position that a check reads lies within the buffer. -/
theorem parseAt?_eq (buffer : Bytes) : parseAt? buffer = some (parse buffer) := by
  by_cases hs : buffer.length < frameOverhead + 2
  · rw [parse_short hs, parseAt?, if_pos hs]
  · obtain ⟨marker, declared, nodeId, counter, data, slot, hn, rfl⟩ := exists_framed (Nat.le_of_not_lt hs)
    have hl : (marker :: declared :: nodeId :: counter :: (data ++ [slot])).length =
        data.length + 5 := by simp
    have hc : checksumAt? (marker :: declared :: nodeId :: counter :: (data ++ [slot])) =
        some (Crc8.remainder (declared :: nodeId :: counter :: data)) := by
      rw [checksumAt?, if_neg (by omega)]
      simp [slice?]
    have hp : slice? (marker :: declared :: nodeId :: counter :: (data ++ [slot])) 4
        (data.length + 4) = some data := by
      simp [slice?]
    have hslot : (marker :: declared :: nodeId :: counter :: (data ++ [slot]))[data.length + 4]? =
        some slot := by
      simp
    rw [parse_framed _ _ _ _ _ hn, parseAt?, if_neg hs, hc, hl, Nat.add_sub_cancel (data.length + 4) 1,
      hslot, hp]
    simp only [List.getElem?_cons_zero, List.getElem?_cons_succ, Option.bind_eq_bind, Option.bind_some]
    by_cases hm : marker = startMarker
    · by_cases hd : declared.toNat + frameOverhead = data.length + 5
      · have hpay : payloadAt? declared data = some (Payload.decode declared data) :=
          payloadAt?_eq (by simp only [frameOverhead] at hd; omega)
        by_cases hsum : Crc8.remainder (declared :: nodeId :: counter :: data) = slot
        · simp [hm, hd, hsum, hpay]
        · simp [hm, hd, hsum]
      · simp [hm, hd]
    · simp [hm]

/-- A frame is read back from its packet, with the low byte of its counter. No check reads past the
end of a buffer. What is accepted is byte for byte the packet of what it decodes to, and no accepted
buffer is the beginning of another. -/
theorem framing_exact :
    (∀ sample : SampleFrame, parse (ofSample sample) =
      .ok ⟨sample.nodeId, .ofNat (sample.counter.toNat % 256), .raw sample.data⟩) ∧
    (∀ frame : ThresholdFrame, parse (ofThreshold frame) =
      .ok ⟨frame.nodeId, frame.counter, .threshold frame.bitmask⟩) ∧
    (∀ buffer : Bytes, parseAt? buffer = some (parse buffer)) ∧
    (∀ (buffer : Bytes) (nodeId counter : UInt8) (data : Reading),
      parse buffer = .ok ⟨nodeId, counter, .raw data⟩ ↔
        buffer = ofSample ⟨nodeId, counter.toUInt32, data⟩) ∧
    (∀ (buffer : Bytes) (nodeId counter bitmask : UInt8),
      parse buffer = .ok ⟨nodeId, counter, .threshold bitmask⟩ ↔
        buffer = ofThreshold ⟨nodeId, counter, bitmask⟩) ∧
    ∀ (shorter longer : Bytes) (a b : Decoded), parse shorter = .ok a → parse longer = .ok b →
      shorter <+: longer → shorter = longer := by
  refine ⟨?_, fun frame => parse_ofDecoded _, parseAt?_eq, ?_, ?_, ?_⟩
  · intro sample
    have hc : UInt8.ofNat (sample.counter.toNat % 256) = sample.counter.toUInt8 := by
      apply UInt8.toNat_inj.mp
      simp
    rw [hc]
    exact parse_ofDecoded _
  · intro buffer nodeId counter data
    have hc : counter.toUInt32.toUInt8 = counter := by simp
    rw [parse_eq_ok_iff, ofSample, hc]
  · intro buffer nodeId counter bitmask
    exact parse_eq_ok_iff
  · intro shorter longer a b ha hb hp
    rw [parse_eq_ok_iff] at ha hb
    subst ha hb
    exact ofDecoded_prefix_eq hp

/-- A bitmask packet of node 5, which is no longer accepted with one more byte behind it. -/
theorem framing_exact_bitmask :
    parse [0x53, 2, 5, 7, 0x0A, 0xB1] = .ok ⟨5, 7, .threshold 0x0A⟩ ∧
    ∀ decoded, parse [0x53, 2, 5, 7, 0x0A, 0xB1, 0xB1] ≠ .ok decoded := by
  have hp : parse [0x53, 2, 5, 7, 0x0A, 0xB1] = .ok ⟨5, 7, .threshold 0x0A⟩ :=
    (framing_exact.2.2.2.2.1 _ _ _ _).mpr (by decide +kernel)
  refine ⟨hp, ?_⟩
  intro decoded hd
  have := framing_exact.2.2.2.2.2 _ _ _ _ hp hd ⟨[0xB1], rfl⟩
  simp at this

end Packet

end Telemetry
