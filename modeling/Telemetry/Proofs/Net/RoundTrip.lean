import Telemetry.Net.AddressReader
import Telemetry.Proofs.Wire.Codec
import Telemetry.Proofs.Json.RoundTrip

/-! Addresses are read back as they were written: dotted decimal, groups in full, groups around the zeros that are
left out, and mapped addresses. No text is both an address and an address with a port. -/
namespace Telemetry.AddressReader

/-! Numbers. -/

/-- No digit stands at the front of the text. -/
def EndsDigits (radix : Nat) (rest : List Char) : Prop :=
  rest.head?.bind (digit? radix) = none

theorem dropWhile_of_endsDigits {radix : Nat} {rest : List Char} (h : EndsDigits radix rest) :
    rest.dropWhile (fun c => (digit? radix c).isSome) = rest := by
  cases rest <;> simp_all [EndsDigits]

theorem takeWhile_of_endsDigits {radix : Nat} {rest : List Char} (h : EndsDigits radix rest) :
    rest.takeWhile (fun c => (digit? radix c).isSome) = [] := by
  cases rest <;> simp_all [EndsDigits]

theorem digit?_digitChar {radix value : Nat} (hRadix : radix ≤ 16) (h : value < radix) :
    digit? radix (Nat.digitChar value) = some value := by
  have hHex : ∀ value < 16, Json.hexDigit? (Nat.digitChar value) = some value := by decide
  rw [digit?, hHex value (by omega), Option.filter_some, if_pos (by simpa using h)]

theorem digit?_of_mem_toDigits {radix n : Nat} (hLow : 1 < radix) (hRadix : radix ≤ 16) {c : Char}
    (h : c ∈ Nat.toDigits radix n) : (digit? radix c).isSome := by
  induction n using Nat.strongRecOn with
  | _ n ih =>
    by_cases hSmall : n < radix
    · rw [Nat.toDigits_of_lt_base hSmall, List.mem_singleton] at h
      rw [h, digit?_digitChar hRadix hSmall, Option.isSome_some]
    · rw [Nat.toDigits_of_base_le hLow (by omega), List.mem_append, List.mem_singleton] at h
      obtain h | h := h
      · exact ih _ (Nat.div_lt_self (by omega) hLow) h
      · rw [h, digit?_digitChar hRadix (Nat.mod_lt _ (by omega)), Option.isSome_some]

theorem digitsValue_concat (radix : Nat) (digits : List Char) (c : Char) :
    digitsValue radix (digits ++ [c]) = digitsValue radix digits * radix + (digit? radix c).getD 0 := by
  simp [digitsValue]

theorem digitsValue_toDigits {radix : Nat} (hLow : 1 < radix) (hRadix : radix ≤ 16) (n : Nat) :
    digitsValue radix (Nat.toDigits radix n) = n := by
  induction n using Nat.strongRecOn with
  | _ n ih =>
    by_cases hSmall : n < radix
    · rw [Nat.toDigits_of_lt_base hSmall]
      simp [digitsValue, digit?_digitChar hRadix hSmall]
    · have hRest := ih (n / radix) (Nat.div_lt_self (by omega) hLow)
      rw [Nat.toDigits_of_base_le hLow (by omega), digitsValue_concat, hRest,
        digit?_digitChar hRadix (Nat.mod_lt _ (by omega)), Option.getD_some, Nat.div_add_mod']

/-- The digits of a number that the form has room for are read as the number, and what follows them stays. -/
theorem number_toDigits {form : NumberForm} {n : Nat} {rest : List Char} (hLow : 1 < form.radix)
    (hRadix : form.radix ≤ 16)
    (hCount : ∀ count, form.maxDigits = some count → (Nat.toDigits form.radix n).length ≤ count)
    (hPadded : form.zeroPadded = true ∨ (Nat.toDigits form.radix n).head? ≠ some '0' ∨ n = 0)
    (hBound : n < form.bound) (hEnd : EndsDigits form.radix rest) :
    number form (Nat.toDigits form.radix n ++ rest) = some (n, rest) := by
  have hDigits : ∀ c ∈ Nat.toDigits form.radix n, (digit? form.radix c).isSome = true := fun _ =>
    digit?_of_mem_toDigits hLow hRadix
  simp only [number, List.takeWhile_append_of_pos hDigits, List.dropWhile_append_of_pos hDigits,
    takeWhile_of_endsDigits hEnd, dropWhile_of_endsDigits hEnd, List.append_nil, digitsValue_toDigits hLow hRadix]
  have hSome : (Nat.toDigits form.radix n).isEmpty = false := by
    simp [Nat.toDigits_ne_nil]
  have hPlain : (decide ((Nat.toDigits form.radix n).head? = some '0') &&
      decide (1 < (Nat.toDigits form.radix n).length) && !form.zeroPadded) = false := by
    obtain hForm | hHead | rfl := hPadded
    · simp [hForm]
    · simp [hHead]
    · simp
  have hBelow : ¬form.bound ≤ n := Nat.not_le.mpr hBound
  cases hMax : form.maxDigits with
  | none => simp [hSome, hPlain, hBelow]
  | some count => simp [hSome, hPlain, hBelow, hCount count hMax]

theorem number_of_endsDigits {form : NumberForm} {rest : List Char} (h : EndsDigits form.radix rest) :
    number form rest = none := by
  simp [number, takeWhile_of_endsDigits h]

/-- What a number leaves are the characters behind all digits at the front. -/
theorem rest_of_number {form : NumberForm} {text rest : List Char} {value : Nat}
    (h : number form text = some (value, rest)) :
    rest = text.dropWhile fun c => (digit? form.radix c).isSome := by
  unfold number at h
  grind

theorem number_octet (byte : UInt8) {rest : List Char} (hEnd : EndsDigits 10 rest) :
    number octetForm (Nat.toDigits 10 byte.toNat ++ rest) = some (byte.toNat, rest) := by
  have hBound : byte.toNat < 256 := byte.toNat_lt
  refine number_toDigits (by decide) (by decide) ?_ ?_ hBound hEnd
  · rintro count ⟨⟩
    exact (Nat.length_toDigits_le_iff (by decide) (by decide)).mpr (Nat.lt_trans hBound (by decide))
  · by_cases hZero : byte.toNat = 0
    · exact .inr (.inr hZero)
    · exact .inr (.inl (Json.head?_toDigits_ne_zero hZero))

theorem number_group (group : UInt16) {rest : List Char} (hEnd : EndsDigits 16 rest) :
    number groupForm (Nat.toDigits 16 group.toNat ++ rest) = some (group.toNat, rest) := by
  refine number_toDigits (by decide) (by decide) ?_ (.inl rfl) group.toNat_lt hEnd
  rintro count ⟨⟩
  exact (Nat.length_toDigits_le_iff (by decide) (by decide)).mpr group.toNat_lt

/-! Dotted decimal. -/

theorem ipv4_toList_render (address : Ipv4) : address.render.toList =
    Nat.toDigits 10 address.a.toNat ++ '.' :: (Nat.toDigits 10 address.b.toNat ++ '.' ::
      (Nat.toDigits 10 address.c.toNat ++ '.' :: Nat.toDigits 10 address.d.toNat)) := by
  have hByte (byte : UInt8) : (toString byte).toList = Nat.toDigits 10 byte.toNat := by
    change (toString byte.toNat).toList = _
    rw [Nat.toString_eq_ofList_toDigits, String.toList_ofList]
  have hPoint : (toString ".").toList = ['.'] := rfl
  simp [Ipv4.render, hByte, hPoint]

theorem ipv4_render (address : Ipv4) {rest : List Char} (hEnd : EndsDigits 10 rest) :
    ipv4 (address.render.toList ++ rest) = some (address, rest) := by
  have hPoint (rest : List Char) : EndsDigits 10 ('.' :: rest) := rfl
  rw [ipv4_toList_render]
  simp [ipv4, number_octet, hPoint, hEnd, expect]

theorem ipv4_render_end (address : Ipv4) : ipv4 address.render.toList = some (address, []) := by
  have hEnd : EndsDigits 10 [] := rfl
  simpa using ipv4_render address hEnd

/-- A text is not taken for dotted decimal if no point follows the digits at its front. -/
theorem ipv4_eq_none {text : List Char}
    (h : (text.dropWhile fun c => (digit? 10 c).isSome).head? ≠ some '.') : ipv4 text = none := by
  unfold ipv4
  cases hNumber : number octetForm text with
  | none => rfl
  | some found =>
    obtain ⟨a, rest⟩ := found
    have hHead : rest.head? ≠ some '.' := rest_of_number hNumber ▸ h
    have hExpect : expect '.' rest = none := by
      cases rest <;> simp_all [expect]
    simp [hExpect]

/-! Groups. -/

/-- A text that a group may stand in front of. -/
def EndsGroup (rest : List Char) : Prop :=
  rest = [] ∨ ∃ later, rest = ':' :: later

/-- A text that a row of groups may stand in front of. -/
def EndsGroups (rest : List Char) : Prop :=
  rest = [] ∨ ∃ later, rest = ':' :: ':' :: later

theorem EndsGroups.endsGroup {rest : List Char} (h : EndsGroups rest) : EndsGroup rest := by
  obtain rfl | ⟨later, rfl⟩ := h
  · exact .inl rfl
  · exact .inr ⟨_, rfl⟩

theorem EndsGroup.endsDigits {rest : List Char} (h : EndsGroup rest) (radix : Nat) : EndsDigits radix rest := by
  obtain rfl | ⟨later, rfl⟩ := h
  · rfl
  · simp [EndsDigits, digit?, show Json.hexDigit? ':' = none from rfl]

theorem EndsGroup.ipv4 {rest : List Char} (h : EndsGroup rest) : ipv4 rest = none := by
  refine ipv4_eq_none ?_
  rw [dropWhile_of_endsDigits (h.endsDigits 10)]
  obtain rfl | ⟨later, rfl⟩ := h <;> simp

theorem ipv4_group (group : UInt16) {rest : List Char} (h : EndsGroup rest) :
    ipv4 (Nat.toDigits 16 group.toNat ++ rest) = none := by
  refine ipv4_eq_none ?_
  rw [List.dropWhile_append, dropWhile_of_endsDigits (h.endsDigits 10)]
  split_ifs with hEmpty
  · obtain rfl | ⟨later, rfl⟩ := h <;> simp
  · intro hPoint
    rw [List.head?_append_of_ne_nil _ (by simpa using hEmpty)] at hPoint
    have hMember : '.' ∈ Nat.toDigits 16 group.toNat :=
      (List.dropWhile_suffix _).subset (List.mem_of_mem_head? hPoint)
    cases digit?_of_mem_toDigits (by decide) (by decide) hMember

/-- Groups as they are written, the first of them with or without a colon in front. -/
def written : Bool → List UInt16 → List Char
  | _, [] => []
  | first, group :: groups =>
    (if first then [] else [':']) ++ (Nat.toDigits 16 group.toNat ++ written false groups)

theorem toList_groupsText (groups : List UInt16) : (Ipv6.groupsText groups).toList = written true groups := by
  have hColon : ":".toList = [':'] := rfl
  have hGroup (group : UInt16) : (Ipv6.groupText group).toList = Nat.toDigits 16 group.toNat := by
    rw [Ipv6.groupText, String.toList_ofList]
  rw [Ipv6.groupsText, String.toList_intercalate, hColon]
  induction groups with
  | nil => rfl
  | cons group groups ih =>
    cases groups with
    | nil => simp [written, hGroup, List.intercalate]
    | cons next groups =>
      simp only [List.map_cons, List.intercalate_cons_cons] at ih ⊢
      rw [ih]
      simp [written, hGroup]

theorem endsGroup_written (groups : List UInt16) {rest : List Char} (h : EndsGroups rest) :
    EndsGroup (written false groups ++ rest) := by
  cases groups with
  | nil => exact h.endsGroup
  | cons group groups => exact .inr ⟨_, rfl⟩

/-- Where no group stands, none is read. -/
theorem groups_of_endsGroups {rest : List Char} (h : EndsGroups rest) (first : Bool) (room : Nat) :
    groups first room rest = (([], false), rest) := by
  cases room with
  | zero => rfl
  | succ room =>
    have hItem : ∀ item ∈ (if first then some rest else expect ':' rest), EndsGroup item := by
      cases first with
      | true => simpa using h.endsGroup
      | false =>
        obtain rfl | ⟨later, rfl⟩ := h
        · simp [expect]
        · simp [expect, EndsGroup]
    have hIpv4 : (if first then some rest else expect ':' rest).bind ipv4 = none :=
      Option.bind_eq_none_iff.mpr fun item h => (hItem item h).ipv4
    have hNumber : (if first then some rest else expect ':' rest).bind (number groupForm) = none :=
      Option.bind_eq_none_iff.mpr fun item h => number_of_endsDigits ((hItem item h).endsDigits 16)
    simp [groups, hIpv4, hNumber]

/-- One group in front is read as that group. -/
theorem groups_group (group : UInt16) {rest : List Char} (h : EndsGroup rest) (first : Bool) (room : Nat) :
    groups first (room + 1) ((if first then [] else [':']) ++ (Nat.toDigits 16 group.toNat ++ rest)) =
      ((group :: (groups false room rest).1.1, (groups false room rest).1.2), (groups false room rest).2) := by
  have hIpv4 := ipv4_group group h
  have hNumber := number_group group (h.endsDigits 16)
  cases first <;> simp [groups, expect, hIpv4, hNumber]

/-- Written groups are read as they are, and what follows them stays. -/
theorem groups_written {row : List UInt16} {room : Nat} (h : row.length ≤ room) {rest : List Char}
    (hEnd : EndsGroups rest) (first : Bool) :
    groups first room (written first row ++ rest) = ((row, false), rest) := by
  induction row generalizing first room with
  | nil => exact groups_of_endsGroups hEnd first room
  | cons group row ih =>
    cases room with
    | zero => cases h
    | succ room =>
      have hRow := ih (Nat.le_of_succ_le_succ h) false
      rw [written, List.append_assoc, List.append_assoc, groups_group group (endsGroup_written row hEnd), hRow]

/-! The run of zeros that is left out. -/

theorem replicate_leadingZeros (groups : List UInt16) :
    List.replicate (Ipv6.leadingZeros groups) 0 ++ groups.drop (Ipv6.leadingZeros groups) = groups := by
  induction groups with
  | nil => rfl
  | cons group groups ih =>
    by_cases hZero : group = 0
    · have hMore : Ipv6.leadingZeros (group :: groups) = Ipv6.leadingZeros groups + 1 := by
        simp [Ipv6.leadingZeros, hZero]
      rw [hMore, List.replicate_succ, List.cons_append, List.drop_succ_cons, ih, hZero]
    · have hNone : Ipv6.leadingZeros (group :: groups) = 0 := by
        simp [Ipv6.leadingZeros, hZero]
      rw [hNone, List.replicate_zero, List.drop_zero, List.nil_append]

/-- What is left out is a run of zeros, with the other groups on its two sides. -/
theorem replicate_longestZeros {groups : List UInt16} {start length : Nat}
    (h : Ipv6.longestZeros groups = (start, length)) :
    groups.take start ++ (List.replicate length 0 ++ groups.drop (start + length)) = groups := by
  induction groups generalizing start length with
  | nil =>
    cases h
    rfl
  | cons group groups ih =>
    rcases hRest : Ipv6.longestZeros groups with ⟨restStart, restLength⟩
    simp only [Ipv6.longestZeros, hRest] at h
    split_ifs at h
    · cases h
      simpa using replicate_leadingZeros (group :: groups)
    · cases h
      rw [Nat.add_right_comm, List.take_succ_cons, List.drop_succ_cons, List.cons_append, ih hRest]

/-! Whole addresses. -/

theorem ofFn_getD (address : Ipv6) :
    (⟨Vector.ofFn fun i => address.groups.toList.getD i.val 0⟩ : Ipv6) = address := by
  cases address with
  | mk groups =>
    congr
    ext i h
    simp

/-- Groups in full. -/
theorem ipv6_full (address : Ipv6) : ipv6 (Ipv6.groupsText address.groups.toList).toList = some (address, []) := by
  have hLength : address.groups.toList.length = 8 := by simp
  have hGroups := groups_written (Nat.le_of_eq hLength) (.inl rfl) true
  rw [List.append_nil] at hGroups
  rw [toList_groupsText]
  simp only [ipv6, hGroups, hLength, if_true, ofFn_getD]

/-- Groups around two colons that stand for zeros. -/
theorem ipv6_short {address : Ipv6} {head tail : List UInt16} {text : List Char} {count : Nat} {dotted : Bool}
    (hCount : 0 < count) (hAddress : head ++ (List.replicate count 0 ++ tail) = address.groups.toList)
    (hTail : groups true (7 - head.length) text = ((tail, dotted), [])) :
    ipv6 (written true head ++ ':' :: ':' :: text) = some (address, []) := by
  have hLength : head.length + (count + tail.length) = 8 := by
    have hAll := congrArg List.length hAddress
    simpa using hAll
  have hHead : groups true 8 (written true head ++ ':' :: ':' :: text) = ((head, false), ':' :: ':' :: text) :=
    groups_written (by omega) (.inr ⟨text, rfl⟩) true
  have hNotAll : head.length ≠ 8 := by omega
  have hZeros : 8 - head.length - tail.length = count := by omega
  simp [ipv6, hHead, hNotAll, expect, hTail, hZeros, hAddress, -List.getD_eq_getElem?_getD, ofFn_getD]

/-- The dotted part of a mapped address is read as its last two groups. -/
theorem groups_of_mapped {address : Ipv6} {small : Ipv4} (h : address.mapped? = some small) :
    address.groups.toList = List.replicate 5 0 ++ 0xFFFF :: groupsOfIpv4 small := by
  unfold Ipv6.mapped? at h
  split at h
  next high low hGroups =>
    cases h
    have hWord (word : UInt16) : (word >>> 8).toUInt8.toUInt16 <<< 8 ||| word.toUInt8.toUInt16 = word := by
      rw [UInt16.or_comm]
      exact wordOfBytes_wordBytes word
    rw [hGroups, groupsOfIpv4, hWord, hWord]
    rfl
  next => cases h

/-- Dotted decimal is read for two groups where there is room for them. -/
theorem groups_dotted (address : Ipv4) {room : Nat} (h : 0 < room) :
    groups false (room + 1) (':' :: address.render.toList) = ((groupsOfIpv4 address, true), []) := by
  simp [groups, expect, h, ipv4_render_end]

theorem groups_mapped (small : Ipv4) :
    groups true 7 ("ffff:".toList ++ small.render.toList) = ((0xFFFF :: groupsOfIpv4 small, true), []) := by
  have hColon : EndsGroup (':' :: small.render.toList) := .inr ⟨_, rfl⟩
  have hText : "ffff:".toList ++ small.render.toList =
      Nat.toDigits 16 (0xFFFF : UInt16).toNat ++ ':' :: small.render.toList := rfl
  have hRest : groups false 6 (':' :: small.render.toList) = ((groupsOfIpv4 small, true), []) :=
    groups_dotted small (by decide)
  rw [hText]
  simpa only [if_true, List.nil_append, hRest] using groups_group 0xFFFF hColon true 6

theorem ipv6_render (address : Ipv6) : ipv6 address.render.toList = some (address, []) := by
  unfold Ipv6.render
  cases hMapped : address.mapped? with
  | some small =>
    have hAddress : [] ++ (List.replicate 5 0 ++ 0xFFFF :: groupsOfIpv4 small) = address.groups.toList :=
      (groups_of_mapped hMapped).symm
    have hRender : ("::ffff:" ++ small.render).toList =
        written true [] ++ ':' :: ':' :: ("ffff:".toList ++ small.render.toList) := by
      rw [String.toList_append]
      rfl
    rw [hRender]
    exact ipv6_short (by decide) hAddress (groups_mapped small)
  | none =>
    rcases hZeros : Ipv6.longestZeros address.groups.toList with ⟨start, length⟩
    simp only [hZeros]
    split_ifs with hLength
    · have hParts := replicate_longestZeros hZeros
      have hRoom : (address.groups.toList.drop (start + length)).length ≤
          7 - (address.groups.toList.take start).length := by
        have hAll := congrArg List.length hParts
        simp at hAll ⊢
        omega
      have hTail := groups_written hRoom (.inl rfl) true
      rw [List.append_nil] at hTail
      have hColons : "::".toList = [':', ':'] := rfl
      rw [String.toList_append, String.toList_append, toList_groupsText, toList_groupsText, hColons, List.append_assoc]
      exact ipv6_short (by omega) hParts hTail
    · exact ipv6_full address

/-- The larger addresses begin with groups. -/
theorem exists_written (address : Ipv6) :
    ∃ row rest, EndsGroups rest ∧ address.render.toList = written true row ++ rest := by
  have hColons : "::".toList = [':', ':'] := rfl
  unfold Ipv6.render
  split
  next small =>
    rw [String.toList_append]
    exact ⟨[], _, .inr ⟨_, rfl⟩, rfl⟩
  next =>
    dsimp only
    split_ifs
    · rw [String.toList_append, String.toList_append, toList_groupsText, hColons, List.append_assoc]
      exact ⟨_, _, .inr ⟨_, rfl⟩, rfl⟩
    · rw [toList_groupsText]
      exact ⟨_, [], .inl rfl, (List.append_nil _).symm⟩

/-- The larger addresses are not taken for dotted decimal. -/
theorem ipv4_ipv6_render (address : Ipv6) : ipv4 address.render.toList = none := by
  obtain ⟨row, rest, hRest, hRender⟩ := exists_written address
  rw [hRender]
  cases row with
  | nil => exact hRest.endsGroup.ipv4
  | cons group row =>
    rw [written, List.append_assoc, List.append_assoc]
    exact ipv4_group group (endsGroup_written row hRest)

/-! Whole texts. -/

theorem whole_eq_some {α : Type} {reader : Reader α} {text : String} {found : α} :
    whole reader text = some found ↔ reader text.toList = some (found, []) := by
  unfold whole
  split <;> simp_all

/-- A bracket opens no address. -/
theorem ip_bracket (text : List Char) : ip ('[' :: text) = none := by
  have hEnd (radix : Nat) : EndsDigits radix ('[' :: text) := rfl
  have hIpv4 : ipv4 ('[' :: text) = none := by
    refine ipv4_eq_none ?_
    rw [dropWhile_of_endsDigits (hEnd 10)]
    simp
  have hGroups : groups true 8 ('[' :: text) = (([], false), '[' :: text) := by
    rw [groups]
    simp [hIpv4, number_of_endsDigits (hEnd groupForm.radix)]
  simp [ip, hIpv4, ipv6, hGroups, expect]

/-- What stands before a port is all that an address is read from. -/
theorem ip_ne_of_socket {text : List Char} {remote : SocketAddress} (h : socket text = some (remote, []))
    (address : IpAddress) : ip text ≠ some (address, []) := by
  rcases Option.or_eq_some_iff.mp h with h | ⟨-, h⟩
  · obtain ⟨⟨small, rest⟩, hIpv4, hPort⟩ := Option.bind_eq_some_iff.mp h
    simp only [ip, hIpv4]
    rintro ⟨⟩
    cases hPort
  · obtain ⟨rest, hExpect, -⟩ := Option.bind_eq_some_iff.mp h
    cases text with
    | nil => cases hExpect
    | cons c text =>
      obtain rfl : c = '[' := by
        by_contra hOther
        simp [expect, hOther] at hExpect
      simp [ip_bracket]

end AddressReader

theorem SocketAddress.parse_ip {text : String} {remote : SocketAddress}
    (h : SocketAddress.parse text = some remote) : IpAddress.parse text = none := by
  refine Option.eq_none_iff_forall_ne_some.mpr fun address hIp => ?_
  exact AddressReader.ip_ne_of_socket (AddressReader.whole_eq_some.mp h) address (AddressReader.whole_eq_some.mp hIp)

/-- An address is read back as it was written. -/
theorem IpAddress.parse_render (address : IpAddress) : IpAddress.parse address.render = some address := by
  refine AddressReader.whole_eq_some.mpr ?_
  cases address with
  | v4 address => simp [AddressReader.ip, IpAddress.render, AddressReader.ipv4_render_end]
  | v6 address =>
    simp [AddressReader.ip, IpAddress.render, AddressReader.ipv4_ipv6_render, AddressReader.ipv6_render]

end Telemetry
