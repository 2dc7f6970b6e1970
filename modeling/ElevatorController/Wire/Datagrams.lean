import ElevatorController.Wire.Requests
import ElevatorController.Wire.Truncation

/-!
# Wire/Datagrams — the frame decoder of the wire tests, beside the one of the log

    Frame(data)          raises where a specifier or a message type is cut off, slices elsewhere
    DecodeBacnetFrame    stops at the first part that is cut off

Two decoders of one format.  `frame_raises_iff` says which datagrams the first cannot be made from;
`decoders_agree` that on a frame whose header is all there they report the same.
-/

namespace Controller

open BigEndian

/-- What `Frame._decode` finds in a datagram. -/
structure Frame where
  bvlcFunction : Option UInt8 := none
  bvllData : List UInt8 := []
  originatingMac : List UInt8 := []
  hasNpdu : Bool := false
  snet : Option ℕ := none
  sadr : List UInt8 := []
  dnet : Option ℕ := none
  dadr : List UInt8 := []
  expectingReply : Bool := false
  networkMessage : Option UInt8 := none
  payload : List UInt8 := []
  ok : Bool := false
  deriving DecidableEq

/-- `struct.unpack(">HB", …)`. -/
def unpackHB : List UInt8 → Except Raised (ℕ × ℕ)
  | [high, low, length] => .ok (value [high, low], length.toNat)
  | _ => .error .structError

/-- A specifier, if its bit of the control octet is set, and the position after it. -/
def readSpecifier (present : Bool) (octets : List UInt8) (position : ℕ) :
    Except Raised (Option ℕ × List UInt8 × ℕ) :=
  if present then do
    let (net, length) ← unpackHB (slice octets position (position + 3))
    let position := position + 3
    .ok (some net, slice octets position (position + length), position + length)
  else .ok (none, [], position)

/-- The type of a network layer message, and the position after it and a vendor identifier. -/
def readNetworkMessage (present : Bool) (octets : List UInt8) (position : ℕ) :
    Except Raised (Option UInt8 × ℕ) :=
  if present then do
    let message ← index octets position
    .ok (some message, if message ≥ 0x80 then position + 3 else position + 1)
  else .ok (none, position)

/-- `Frame._decode` from the NPDU on. -/
def Frame.readNpdu (octets : List UInt8) (frame : Frame) : Except Raised Frame :=
  match octets with
  | version :: control :: _ =>
    if version ≠ 0x01 then .ok frame
    else do
      let (dnet, dadr, position) ← readSpecifier (control &&& 0x20 != 0) octets 2
      let (snet, sadr, position) ← readSpecifier (control &&& 0x08 != 0) octets position
      let position := if control &&& 0x20 != 0 then position + 1 else position
      let (networkMessage, position) ← readNetworkMessage (control &&& 0x80 != 0) octets position
      .ok { frame with
        hasNpdu := true, expectingReply := control &&& 0x04 != 0
        dnet, dadr, snet, sadr, networkMessage
        payload := octets.drop position
        ok := true }
  | _ => .ok frame

/-- `BVLC_FUNCTIONS_WITH_NPDU`. -/
def bvlcFunctionsWithNpdu : List UInt8 := [0x04, 0x09, 0x0A, 0x0B]

/-- `Frame._decode`: the frame, if the constructor does not raise. -/
def Frame.decode (data : List UInt8) : Except Raised Frame :=
  match data with
  | bvlcType :: function :: _ :: _ :: bvllData =>
    if bvlcType ≠ 0x81 then .ok {}
    else
      let frame : Frame := { bvlcFunction := some function, bvllData }
      if function ∉ bvlcFunctionsWithNpdu then .ok { frame with ok := true }
      else if function = 0x04 then
        { frame with originatingMac := slice data 4 10 }.readNpdu (data.drop 10)
      else frame.readNpdu bvllData
  | _ => .ok {}

namespace Frame

/-- `pdu_type`. -/
def pduType (frame : Frame) : Option ℕ :=
  match frame.networkMessage, frame.payload with
  | none, first :: _ => some (first >>> 4).toNat
  | _, _ => none

/-- `invoke_id`. -/
def invokeId (frame : Frame) : Except Raised (Option UInt8) :=
  match frame.pduType with
  | some 2 | some 3 | some 5 | some 6 | some 7 => do
    let octet ← index frame.payload 1
    .ok (some octet)
  | some 0 => .ok frame.payload[2]?
  | _ => .ok none

/-- `service`. -/
def service (frame : Frame) : Except Raised (Option UInt8) :=
  match frame.pduType with
  | some 2 | some 3 | some 5 => do
    let octet ← index frame.payload 2
    .ok (some octet)
  | some 0 => .ok frame.payload[3]?
  | some 1 => .ok frame.payload[1]?
  | _ => .ok none

end Frame

/-! ## Where the parts are -/

section Positions

open Layout

variable {data : List UInt8}

theorem slice_drop (s p q : ℕ) : slice (data.drop s) p q = slice data (s + p) (s + q) := by
  rw [slice, slice, List.drop_drop, Nat.add_sub_add_left]

theorem drop_eq_octetAt_cons {s : ℕ} (h : s < data.length) :
    data.drop s = octetAt data s :: data.drop (s + 1) := by
  rw [List.drop_eq_getElem_cons h]
  have := getElem?_eq_octetAt h
  rw [List.getElem?_eq_getElem h] at this
  rw [Option.some.inj this]

/-- Three octets, as far as the datagram goes. -/
theorem unpackHB_slice (s : ℕ) : unpackHB (slice data s (s + 3))
    = if s + 3 ≤ data.length then .ok (wordAt data s, (octetAt data (s + 2)).toNat)
      else .error .structError := by
  have hlength := length_slice data s (s + 3)
  split
  · rename_i h
    have hslice : slice data s (s + 3)
        = [octetAt data s, octetAt data (s + 1), octetAt data (s + 2)] := by
      rw [slice, drop_eq_octetAt_cons (by omega), drop_eq_octetAt_cons (by omega),
        drop_eq_octetAt_cons (by omega), Nat.add_sub_cancel_left]
      rfl
    rw [hslice, unpackHB, wordAt]
    simp only [value, List.foldl_cons, List.foldl_nil, Nat.zero_shiftLeft, Nat.zero_or]
  · rename_i h
    revert hlength
    generalize slice data s (s + 3) = octets
    intro hlength
    obtain _ | ⟨a, _ | ⟨b, _ | ⟨c, _ | ⟨d, rest⟩⟩⟩⟩ := octets
    · rfl
    · rfl
    · rfl
    · simp only [List.length_cons, List.length_nil] at hlength
      omega
    · rfl

/-- A specifier of an NPDU that starts at `s`. -/
theorem readSpecifier_at (present : Bool) (s p : ℕ) :
    readSpecifier present (data.drop s) p
      = if present then
          if s + p + 3 ≤ data.length then
            .ok (some (wordAt data (s + p)),
              slice data (s + p + 3) (s + p + 3 + (octetAt data (s + p + 2)).toNat),
              p + 3 + (octetAt data (s + p + 2)).toNat)
          else .error .structError
        else .ok (none, [], p) := by
  rw [readSpecifier, slice_drop, ← Nat.add_assoc, unpackHB_slice]
  split
  · split
    · rw [ok_bind]
      simp only [slice_drop, Nat.add_assoc]
    · rfl
  · rfl

theorem readNetworkMessage_at (present : Bool) (s p : ℕ) :
    readNetworkMessage present (data.drop s) p
      = if present then
          if s + p < data.length then
            .ok (some (octetAt data (s + p)),
              if octetAt data (s + p) ≥ 0x80 then p + 3 else p + 1)
          else .error .indexError
        else .ok (none, p) := by
  rw [readNetworkMessage, index, List.getElem?_drop]
  by_cases h : s + p < data.length
  · rw [getElem?_eq_octetAt h, if_pos h]
    rfl
  · rw [List.getElem?_eq_none (not_lt.mp h), if_neg h]
    rfl

/-- The octets of an NPDU of version 1 are there. -/
structure CarriesNpdu (data : List UInt8) : Prop where
  four : 4 ≤ data.length
  bvlcType : octetAt data 0 = 0x81
  bvlcFunction : octetAt data 1 ∈ bvlcFunctionsWithNpdu
  inside : destStart data ≤ data.length
  version : octetAt data (npduStart data) = 0x01

/-- The datagram ends in the first three octets of a specifier, or before a message type. -/
def CutOff (data : List UInt8) : Prop :=
  (hasDest data ∧ data.length < destStart data + 3) ∨ (hasSrc data ∧ data.length < srcStart data + 3)
    ∨ (isNetworkMessage data ∧ data.length ≤ payloadStart data)

/-- What `Frame` finds in a datagram that is not cut off. -/
def foundFrame (data : List UInt8) : Frame where
  bvlcFunction := some (octetAt data 1)
  bvllData := data.drop 4
  originatingMac := if octetAt data 1 = 0x04 then slice data 4 10 else []
  hasNpdu := true
  expectingReply := control data &&& 0x04 != 0
  dnet := if hasDest data then some (wordAt data (destStart data)) else none
  dadr := if hasDest data then
    slice data (destStart data + 3) (destStart data + 3 + destLength data) else []
  snet := if hasSrc data then some (wordAt data (srcStart data)) else none
  sadr := if hasSrc data then
    slice data (srcStart data + 3) (srcStart data + 3 + srcLength data) else []
  networkMessage := if isNetworkMessage data then some (octetAt data (payloadStart data)) else none
  payload := data.drop <|
    if isNetworkMessage data then
      if octetAt data (payloadStart data) ≥ 0x80 then payloadStart data + 3
      else payloadStart data + 1
    else payloadStart data
  ok := true

/-! ## What is read -/

/-- The NPDU, whatever the BVLC function. -/
theorem readNpdu_eq (frame : Frame) {s : ℕ} (hs : s = npduStart data)
    (hinside : destStart data ≤ data.length) (hversion : octetAt data s = 0x01) :
    frame.readNpdu (data.drop s)
      = (do
        let (dnet, dadr, position) ← readSpecifier (hasDest data) (data.drop s) 2
        let (snet, sadr, position) ← readSpecifier (hasSrc data) (data.drop s) position
        let position := if hasDest data then position + 1 else position
        let (networkMessage, position) ←
          readNetworkMessage (isNetworkMessage data) (data.drop s) position
        .ok { frame with
          hasNpdu := true, expectingReply := control data &&& 0x04 != 0
          dnet, dadr, snet, sadr, networkMessage
          payload := data.drop (s + position)
          ok := true }) := by
  subst hs
  have hstart : destStart data = npduStart data + 2 := rfl
  have hdrop : data.drop (npduStart data) = octetAt data (npduStart data) :: control data
      :: data.drop (npduStart data + 1 + 1) := by
    rw [drop_eq_octetAt_cons (by omega), drop_eq_octetAt_cons (s := npduStart data + 1) (by omega)]
    rfl
  have hpayload : ∀ position, (data.drop (npduStart data)).drop position
      = data.drop (npduStart data + position) := fun position => List.drop_drop
  simp only [← hpayload]
  generalize data.drop (npduStart data) = octets at hdrop
  subst hdrop
  rw [Frame.readNpdu, if_neg (not_not.mpr hversion)]
  rfl

/-- The specifiers and the message type, where there is enough of them. -/
theorem readDest_found (h : hasDest data → destStart data + 3 ≤ data.length) :
    ∃ p, npduStart data + p = srcStart data
      ∧ readSpecifier (hasDest data) (data.drop (npduStart data)) 2
        = .ok ((foundFrame data).dnet, (foundFrame data).dadr, p) := by
  have hstart : npduStart data + 2 = destStart data := rfl
  rw [readSpecifier_at, hstart, ← destLength]
  by_cases hdest : hasDest data = true
  · refine ⟨2 + 3 + destLength data, ?_, ?_⟩
    · rw [srcStart_of_hasDest data hdest]
      omega
    · simp only [foundFrame, hdest, if_true, if_pos (h hdest)]
  · refine ⟨2, ?_, ?_⟩
    · rw [srcStart, if_neg hdest, hstart]
    · simp only [foundFrame, hdest, if_false, Bool.false_eq_true]

theorem readSrc_found {p : ℕ} (hp : npduStart data + p = srcStart data)
    (h : hasSrc data → srcStart data + 3 ≤ data.length) :
    ∃ q, npduStart data + q = hopStart data
      ∧ readSpecifier (hasSrc data) (data.drop (npduStart data)) p
        = .ok ((foundFrame data).snet, (foundFrame data).sadr, q) := by
  rw [readSpecifier_at, hp, ← srcLength]
  by_cases hsrc : hasSrc data = true
  · refine ⟨p + 3 + srcLength data, ?_, ?_⟩
    · rw [hopStart_of_hasSrc data hsrc]
      omega
    · simp only [foundFrame, hsrc, if_true, if_pos (h hsrc)]
  · refine ⟨p, ?_, ?_⟩
    · rw [hopStart, if_neg hsrc, hp]
    · simp only [foundFrame, hsrc, if_false, Bool.false_eq_true]

theorem readMessage_found {q : ℕ} (hq : npduStart data + q = payloadStart data)
    (h : isNetworkMessage data → payloadStart data < data.length) :
    ∃ r, data.drop (npduStart data + r) = (foundFrame data).payload
      ∧ readNetworkMessage (isNetworkMessage data) (data.drop (npduStart data)) q
        = .ok ((foundFrame data).networkMessage, r) := by
  rw [readNetworkMessage_at, hq]
  by_cases hmessage : isNetworkMessage data = true
  · refine ⟨if octetAt data (payloadStart data) ≥ 0x80 then q + 3 else q + 1, ?_, ?_⟩
    · simp only [foundFrame, hmessage, if_true, ← hq]
      split <;> rfl
    · simp only [foundFrame, hmessage, if_true, if_pos (h hmessage)]
  · refine ⟨q, ?_, ?_⟩
    · simp only [foundFrame, hmessage, if_false, Bool.false_eq_true, hq]
    · simp only [foundFrame, hmessage, if_false, Bool.false_eq_true]

/-- The position after the hop count. -/
theorem npduStart_add_hop {q : ℕ} (hq : npduStart data + q = hopStart data) :
    npduStart data + (if hasDest data then q + 1 else q) = payloadStart data := by
  rw [payloadStart]
  split <;> omega

/-- **A datagram that is not cut off is read**, also one that ends inside an address. -/
theorem readNpdu_of_not_cutOff (frame : Frame) (hinside : destStart data ≤ data.length)
    (hversion : octetAt data (npduStart data) = 0x01) (h : ¬ CutOff data) :
    frame.readNpdu (data.drop (npduStart data)) = .ok
      { foundFrame data with
        bvlcFunction := frame.bvlcFunction
        bvllData := frame.bvllData
        originatingMac := frame.originatingMac } := by
  obtain ⟨hdest, hsrc, hmessage⟩ : (hasDest data → destStart data + 3 ≤ data.length)
      ∧ (hasSrc data → srcStart data + 3 ≤ data.length)
      ∧ (isNetworkMessage data → payloadStart data < data.length) := by
    refine ⟨fun hp => ?_, fun hp => ?_, fun hp => ?_⟩ <;>
      · by_contra hlt
        exact h (by simp only [CutOff, hp, true_and]; omega)
  obtain ⟨p, hp, hreadDest⟩ := readDest_found hdest
  obtain ⟨q, hq, hreadSrc⟩ := readSrc_found hp hsrc
  obtain ⟨r, hr, hreadMessage⟩ := readMessage_found (npduStart_add_hop hq) hmessage
  rw [readNpdu_eq frame rfl hinside hversion, hreadDest, ok_bind]
  simp only [hreadSrc, ok_bind, hreadMessage, hr]
  rfl

/-- **…and one that is cut off raises.** -/
theorem readNpdu_of_cutOff (frame : Frame) (hinside : destStart data ≤ data.length)
    (hversion : octetAt data (npduStart data) = 0x01) (h : CutOff data) :
    ∃ e, frame.readNpdu (data.drop (npduStart data)) = .error e := by
  rw [readNpdu_eq frame rfl hinside hversion]
  have hstart : npduStart data + 2 = destStart data := rfl
  by_cases hdest : hasDest data = true ∧ data.length < destStart data + 3
  · rw [readSpecifier_at, hstart, if_pos hdest.1, if_neg (not_le.mpr hdest.2)]
    exact ⟨_, rfl⟩
  obtain ⟨p, hp, hreadDest⟩ := readDest_found fun hd => not_lt.mp fun hlt => hdest ⟨hd, hlt⟩
  rw [hreadDest, ok_bind]
  by_cases hsrc : hasSrc data = true ∧ data.length < srcStart data + 3
  · have hraises : readSpecifier (hasSrc data) (data.drop (npduStart data)) p
        = .error .structError := by
      rw [readSpecifier_at, hp, if_pos hsrc.1, if_neg (not_le.mpr hsrc.2)]
    simp only [hraises]
    exact ⟨_, rfl⟩
  obtain ⟨q, hq, hreadSrc⟩ := readSrc_found hp fun hs => not_lt.mp fun hlt => hsrc ⟨hs, hlt⟩
  simp only [hreadSrc, ok_bind]
  obtain ⟨hmessage, hend⟩ := (h.resolve_left hdest).resolve_left hsrc
  have hraises : readNetworkMessage (isNetworkMessage data) (data.drop (npduStart data))
      (if hasDest data then q + 1 else q) = .error .indexError := by
    rw [readNetworkMessage_at, npduStart_add_hop hq, if_pos hmessage, if_neg (not_lt.mpr hend)]
  simp only [hraises]
  exact ⟨_, rfl⟩

/-! ## The datagram -/

theorem decode_of_length_lt (h : data.length < 4) : Frame.decode data = .ok {} := by
  match data, h with
  | [], _ | [_], _ | [_, _], _ | [_, _, _], _ => rfl
  | _ :: _ :: _ :: _ :: _, h =>
    simp only [List.length_cons] at h
    omega

theorem decode_of_length_ge (h : 4 ≤ data.length) : Frame.decode data
    = if octetAt data 0 ≠ 0x81 then .ok {}
      else if octetAt data 1 ∉ bvlcFunctionsWithNpdu then
        .ok { bvlcFunction := some (octetAt data 1), bvllData := data.drop 4, ok := true }
      else
        Frame.readNpdu (data.drop (npduStart data))
          { bvlcFunction := some (octetAt data 1)
            bvllData := data.drop 4
            originatingMac := if octetAt data 1 = 0x04 then slice data 4 10 else [] } := by
  match data, h with
  | [], h | [_], h | [_, _], h | [_, _, _], h =>
    simp only [List.length_cons, List.length_nil] at h
    omega
  | bvlcType :: function :: high :: low :: rest, _ =>
    have h0 : octetAt (bvlcType :: function :: high :: low :: rest) 0 = bvlcType := rfl
    have h1 : octetAt (bvlcType :: function :: high :: low :: rest) 1 = function := rfl
    have h4 : (bvlcType :: function :: high :: low :: rest).drop 4 = rest := rfl
    rw [Frame.decode, npduStart, h0, h1, h4]
    split
    · rfl
    · split
      · rfl
      · split
        · rfl
        · rfl

/-- The NPDU of a datagram that has less than one, or another version, is not read. -/
theorem readNpdu_of_not_version {frame : Frame} {s : ℕ}
    (h : ¬ (s + 2 ≤ data.length ∧ octetAt data s = 0x01)) :
    frame.readNpdu (data.drop s) = .ok frame := by
  by_cases hinside : s + 2 ≤ data.length
  · rw [drop_eq_octetAt_cons (by omega), drop_eq_octetAt_cons (by omega), Frame.readNpdu,
      if_pos fun hversion => h ⟨hinside, hversion⟩]
  · have hlength : (data.drop s).length < 2 := by
      rw [List.length_drop]
      omega
    generalize data.drop s = octets at hlength
    match octets, hlength with
    | [], _ | [_], _ => rfl
    | _ :: _ :: _, hlength =>
      simp only [List.length_cons] at hlength
      omega

/-- **What `Frame` makes of a datagram with an NPDU.** -/
theorem decode_of_carriesNpdu (h : CarriesNpdu data) :
    (¬ CutOff data → Frame.decode data = .ok (foundFrame data))
      ∧ (CutOff data → ∃ e, Frame.decode data = .error e) := by
  rw [decode_of_length_ge h.four, if_neg (not_not.mpr h.bvlcType),
    if_neg (not_not.mpr h.bvlcFunction)]
  exact ⟨readNpdu_of_not_cutOff _ h.inside h.version, readNpdu_of_cutOff _ h.inside h.version⟩

/-- …and of any other: a frame without an NPDU. -/
theorem decode_of_not_carriesNpdu (h : ¬ CarriesNpdu data) :
    ∃ frame, Frame.decode data = .ok frame ∧ frame.hasNpdu = false ∧ frame.payload = [] := by
  by_cases hfour : 4 ≤ data.length
  · rw [decode_of_length_ge hfour]
    split
    · exact ⟨_, rfl, rfl, rfl⟩
    · split
      · exact ⟨_, rfl, rfl, rfl⟩
      · rename_i htype hfunction
        refine ⟨_, readNpdu_of_not_version ?_, rfl, rfl⟩
        rintro ⟨hinside, hversion⟩
        exact h ⟨hfour, not_not.mp htype, not_not.mp hfunction, hinside, hversion⟩
  · exact ⟨_, decode_of_length_lt (not_le.mp hfour), rfl, rfl⟩

/-- **`Frame` cannot be made exactly from a datagram cut off in a specifier or before a message
type.** -/
theorem frame_raises_iff (data : List UInt8) :
    (∃ e, Frame.decode data = .error e) ↔ CarriesNpdu data ∧ CutOff data := by
  constructor
  · rintro ⟨e, he⟩
    have hcarries : CarriesNpdu data := by
      by_contra hnot
      obtain ⟨frame, hframe, -⟩ := decode_of_not_carriesNpdu hnot
      rw [hframe] at he
      cases he
    refine ⟨hcarries, ?_⟩
    by_contra hnot
    rw [(decode_of_carriesNpdu hcarries).1 hnot] at he
    cases he
  · rintro ⟨hcarries, hcut⟩
    exact (decode_of_carriesNpdu hcarries).2 hcut

end Positions

/-! ## The two decoders -/

section Agree

open Layout DecodedFrame

variable {data : List UInt8} {frame : Frame} {d e : DecodedFrame} {offset : ℕ}

/-- What is reported of the service is the octet there. -/
theorem reports_decodeService {services : List UInt8} (hservice : d.hasServiceChoice = false)
    (hproperty : d.hasObjectProperty = false) (hindex : d.hasArrayIndex = false)
    (h : decodeService data offset services d = some e) :
    ∀ x ∈ e.reportedService, data[offset]? = some x := by
  intro x hx
  rw [decodeService] at h
  split at h
  · obtain rfl := Option.some.inj h
    exact mem_ite_none_of_false hservice hx
  · simp only [Option.bind_eq_bind, Option.bind_eq_some_iff] at h
    obtain ⟨serviceChoice, hread, h⟩ := h
    have hcarried : serviceChoice ∈ e.reportedService := by
      split at h
      · exact (extends_decodeObjectAndProperty
          (d := { d with hasServiceChoice := true, serviceChoice }) hproperty hindex h).service _ rfl
      · obtain rfl := Option.some.inj h
        rfl
    rwa [Option.mem_unique hx hcarried]

/-- A service without a property reference leaves the invoke id. -/
theorem invokeId_decodeService_nil (h : decodeService data offset [] d = some e) :
    e.reportedInvokeId = d.reportedInvokeId := by
  rw [decodeService] at h
  split at h
  · obtain rfl := Option.some.inj h
    rfl
  · obtain ⟨serviceChoice, -, h⟩ := Option.bind_eq_some_iff.mp h
    obtain rfl := Option.some.inj h
    rfl

/-- …and so for the invoke id before it. -/
theorem reports_decodeInvoked {services : List UInt8} {serviceOffset : ℕ} (hd : d.NoApdu)
    {pduType : ℕ} {segmented : Bool}
    (h : decodeInvoked data offset serviceOffset services (d.withPdu pduType segmented) = some e) :
    (∀ x ∈ e.reportedInvokeId, data[offset]? = some x)
      ∧ ∀ x ∈ e.reportedService, data[serviceOffset]? = some x := by
  rw [decodeInvoked] at h
  split at h
  · obtain rfl := Option.some.inj h
    exact ⟨fun x hx => mem_ite_none_of_false hd.hasInvokeId hx,
      fun x hx => mem_ite_none_of_false hd.hasServiceChoice hx⟩
  · obtain ⟨invokeId, hread, h⟩ := Option.bind_eq_some_iff.mp h
    refine ⟨fun x hx => ?_, reports_decodeService
      (d := { d.withPdu pduType segmented with hasInvokeId := true, invokeId })
      hd.hasServiceChoice hd.hasObjectProperty hd.hasArrayIndex h⟩
    have hcarried := (extends_decodeService
      (d := { d.withPdu pduType segmented with hasInvokeId := true, invokeId })
      hd.hasServiceChoice hd.hasObjectProperty hd.hasArrayIndex h).invokeId invokeId rfl
    rwa [Option.mem_unique hx hcarried]

theorem reports_decodePair {set : DecodedFrame → UInt8 → UInt8 → DecodedFrame} (hd : d.NoApdu)
    {pduType : ℕ} {segmented : Bool}
    (h : decodePair data offset set (d.withPdu pduType segmented) = some e) :
    (e.reportedInvokeId = none ∧ e.reportedService = none)
      ∨ ∃ invokeId octet, data[u32 (offset + 1)]? = some invokeId
        ∧ data[u32 (offset + 2)]? = some octet
        ∧ e = set (d.withPdu pduType segmented) invokeId octet := by
  rw [decodePair] at h
  split at h
  · obtain rfl := Option.some.inj h
    exact Or.inl ⟨if_neg fun hset => Bool.false_ne_true (hd.hasInvokeId.symm.trans hset),
      if_neg fun hset => Bool.false_ne_true (hd.hasServiceChoice.symm.trans hset)⟩
  · obtain ⟨invokeId, hinvoke, h⟩ := Option.bind_eq_some_iff.mp h
    obtain ⟨octet, hoctet, h⟩ := Option.bind_eq_some_iff.mp h
    exact Or.inr ⟨invokeId, octet, hinvoke, hoctet, (Option.some.inj h).symm⟩

theorem shiftRight_and (b : UInt8) : (b >>> 4) &&& (0x0F : UInt8) = b >>> 4 := by
  refine UInt8.toNat_inj.mp ?_
  rw [UInt8.toNat_and, UInt8.toNat_shiftRight]
  have hb := b.toNat_lt
  have hsmall : b.toNat >>> 4 < 2 ^ 4 := by
    rw [Nat.shiftRight_eq_div_pow]
    omega
  exact Nat.and_two_pow_sub_one_of_lt_two_pow hsmall

/-- What one decoder reports of the APDU is what the other reads in the payload; of a segmented
APDU, all but the service. -/
structure SameApdu (frame : Frame) (d : DecodedFrame) : Prop where
  pduType : d.reportedPduType = frame.pduType
  invokeId : ∀ x ∈ d.reportedInvokeId, frame.invokeId = .ok (some x)
  service : (∀ first ∈ frame.payload.head?, first &&& 0x08 = 0) →
    ∀ x ∈ d.reportedService, frame.service = .ok (some x)

theorem sameApdu_decodeApdu (hlen : data.length ≤ 65535) (hoffset : offset < data.length)
    (hmessage : frame.networkMessage = none) (hpayload : frame.payload = data.drop offset)
    (hd : d.NoApdu) (h : decodeApdu data offset d = some e) : SameApdu frame e := by
  have hu32 : ∀ k ≤ 5, u32 (offset + k) = offset + k := fun k hk => u32_eq_of_le (by omega)
  have hread : ∀ k, frame.payload[k]? = data[offset + k]? := fun k => by
    rw [hpayload, List.getElem?_drop]
  have hcons := drop_eq_octetAt_cons hoffset
  rw [← hpayload] at hcons
  have htype : frame.pduType = some (octetAt data offset >>> 4).toNat := by
    rw [Frame.pduType, hmessage, hcons]
  have hpdu : e.reportedPduType = frame.pduType := by
    rw [decodeApdu_eq, getElem?_eq_octetAt hoffset] at h
    obtain ⟨segmented, hextends⟩ := extends_decodeRest hd h
    rw [htype, ← shiftRight_and]
    exact hextends.pduType _ rfl
  rw [decodeApdu_eq, getElem?_eq_octetAt hoffset] at h
  change decodeRest data offset (octetAt data offset) d = some e at h
  have hhead : frame.payload.head? = some (octetAt data offset) := by rw [hcons, List.head?_cons]
  have hindex : ∀ {k : ℕ} {x : UInt8}, data[offset + k]? = some x →
      (index frame.payload k >>= fun octet => .ok (some octet)) = .ok (some x) := fun hx => by
    rw [index_eq_ok.mpr ((hread _).trans hx), ok_bind]
  rw [decodeRest, shiftRight_and] at h
  generalize (octetAt data offset >>> 4).toNat = pduType at h htype
  -- an invoke id and a service at fixed positions, and the service after them if not segmented
  have hinvoked : ∀ {services : List UInt8} {invokeAt serviceAt segmentedAt : ℕ}, invokeAt ≤ 5 →
      serviceAt ≤ 5 → decodeInvoked data (u32 (offset + invokeAt))
        (u32 (offset + if octetAt data offset &&& 0x08 != 0 then segmentedAt else serviceAt)) services
        (d.withPdu pduType (octetAt data offset &&& 0x08 != 0)) = some e →
      (∀ x ∈ e.reportedInvokeId, data[offset + invokeAt]? = some x)
        ∧ ((∀ first ∈ frame.payload.head?, first &&& 0x08 = 0) →
          ∀ x ∈ e.reportedService, data[offset + serviceAt]? = some x) := by
    intro services invokeAt serviceAt segmentedAt hinvoke hservice h
    obtain ⟨hi, hs⟩ := reports_decodeInvoked hd h
    rw [hu32 _ hinvoke] at hi
    refine ⟨hi, fun hwhole x hx => ?_⟩
    have hbit := hwhole _ hhead
    rw [hbit] at hs
    have := hs x hx
    rwa [if_neg (by decide), hu32 _ hservice] at this
  -- two octets, both or neither
  have hpair : ∀ {set : DecodedFrame → UInt8 → UInt8 → DecodedFrame},
      decodePair data offset set (d.withPdu pduType d.segmented) = some e →
      (∀ invokeId octet, data[offset + 1]? = some invokeId → data[offset + 2]? = some octet →
        SameApdu frame (set (d.withPdu pduType d.segmented) invokeId octet)) → SameApdu frame e := by
    intro set h hset
    obtain ⟨hi, hs⟩ | ⟨invokeId, octet, hi, hs, rfl⟩ := reports_decodePair hd h
    · refine ⟨hpdu, fun x hx => ?_, fun _ x hx => ?_⟩
      · rw [hi] at hx
        cases hx
      · rw [hs] at hx
        cases hx
    · rw [hu32 1 (by decide)] at hi
      rw [hu32 2 (by decide)] at hs
      exact hset invokeId octet hi hs
  split at h
  · -- Confirmed-Request
    obtain ⟨hi, hs⟩ := hinvoked (by decide) (by decide) h
    refine ⟨hpdu, fun x hx => ?_, fun hwhole x hx => ?_⟩
    · rw [Frame.invokeId, htype]
      exact congrArg _ ((hread 2).trans (hi x hx))
    · rw [Frame.service, htype]
      exact congrArg _ ((hread 3).trans (hs hwhole x hx))
  · -- Unconfirmed-Request
    refine ⟨hpdu, fun x hx => ?_, fun _ x hx => ?_⟩
    · rw [invokeId_decodeService_nil h] at hx
      exact mem_ite_none_of_false hd.hasInvokeId hx
    · have hs := reports_decodeService (d := d.withPdu 1 d.segmented) hd.hasServiceChoice
        hd.hasObjectProperty hd.hasArrayIndex h x hx
      rw [hu32 1 (by decide)] at hs
      rw [Frame.service, htype]
      exact congrArg _ ((hread 1).trans hs)
  · -- ComplexACK
    obtain ⟨hi, hs⟩ := hinvoked (by decide) (by decide) h
    refine ⟨hpdu, fun x hx => ?_, fun hwhole x hx => ?_⟩
    · rw [Frame.invokeId, htype]
      exact hindex (hi x hx)
    · rw [Frame.service, htype]
      exact hindex (hs hwhole x hx)
  · -- SimpleACK
    refine hpair h fun invokeId octet hi hs => ⟨htype.symm, ?_, ?_⟩
    · rintro x ⟨⟩
      rw [Frame.invokeId, htype]
      exact hindex hi
    · rintro - x ⟨⟩
      rw [Frame.service, htype]
      exact hindex hs
  · -- Error
    refine hpair h fun invokeId octet hi hs => ⟨htype.symm, ?_, ?_⟩
    · rintro x ⟨⟩
      rw [Frame.invokeId, htype]
      exact hindex hi
    · rintro - x ⟨⟩
      rw [Frame.service, htype]
      exact hindex hs
  · -- Reject
    refine hpair h fun invokeId octet hi _ => ⟨htype.symm, ?_, ?_⟩
    · rintro x ⟨⟩
      rw [Frame.invokeId, htype]
      exact hindex hi
    · exact fun _ x hx => mem_ite_none_of_false hd.hasServiceChoice hx
  · -- Abort
    refine hpair h fun invokeId octet hi _ => ⟨htype.symm, ?_, ?_⟩
    · rintro x ⟨⟩
      rw [Frame.invokeId, htype]
      exact hindex hi
    · exact fun _ x hx => mem_ite_none_of_false hd.hasServiceChoice hx
  · obtain rfl := Option.some.inj h
    exact ⟨hpdu, fun x hx => mem_ite_none_of_false hd.hasInvokeId hx,
      fun _ x hx => mem_ite_none_of_false hd.hasServiceChoice hx⟩

/-- A specifier whose octets are all there. -/
theorem reportedSpecifier_whole {start : ℕ}
    (h : start + 3 + (octetAt data (start + 2)).toNat ≤ data.length) :
    reportedSpecifier data start
      = (wordAt data start,
        slice data (start + 3) (start + 3 + (octetAt data (start + 2)).toNat)) := by
  rw [reportedSpecifier, if_pos (by omega), if_pos h, slice, Nat.add_sub_cancel_left]

/-- What is reported of the header, once there are all of its octets. -/
theorem reportedHeader_whole (hwhole : payloadStart data ≤ data.length) :
    (reportedHeader data).dest data = (foundFrame data).dnet.map (·, (foundFrame data).dadr)
      ∧ (reportedHeader data).src data
        = (foundFrame data).snet.map (·, (foundFrame data).sadr) := by
  have hhop := hopStart_le_payloadStart data
  have hsource := srcStart_le_hopStart data
  constructor
  · rw [dest_reportedHeader]
    by_cases hdest : hasDest data = true
    · have hstart := srcStart_of_hasDest data hdest
      rw [destLength] at hstart
      rw [reportedSpecifier_whole (by omega)]
      simp only [foundFrame, hdest, if_true, Option.map_some, destLength]
    · simp only [foundFrame, hdest, Bool.false_eq_true, if_false, Option.map_none]
  · rw [src_reportedHeader]
    by_cases hsrc : hasSrc data = true
    · have hstart := hopStart_of_hasSrc data hsrc
      rw [srcLength] at hstart
      rw [reportedSpecifier_whole (by omega)]
      simp only [foundFrame, hsrc, if_true, Option.map_some, srcLength]
    · simp only [foundFrame, hsrc, Bool.false_eq_true, if_false, Option.map_none]

/-- …and of what is after it. -/
theorem sameApdu_reportedPayload (hlen : data.length ≤ 65535)
    (hmessage : isNetworkMessage data → payloadStart data < data.length)
    (h : reportedPayload data (reportedHeader data) = some d) : SameApdu (foundFrame data) d := by
  have hnone : ∀ {d : DecodedFrame}, d.NoApdu → (foundFrame data).pduType = none →
      SameApdu (foundFrame data) d := fun hd htype =>
    ⟨(if_neg (by rw [hd.hasApdu]; exact Bool.false_ne_true)).trans htype.symm,
      fun x hx => mem_ite_none_of_false hd.hasInvokeId hx,
      fun _ x hx => mem_ite_none_of_false hd.hasServiceChoice hx⟩
  rw [reportedPayload] at h
  by_cases hset : isNetworkMessage data = true
  · rw [if_pos (hmessage hset), if_pos hset] at h
    obtain rfl := Option.some.inj h
    refine hnone ⟨rfl, rfl, rfl, rfl, rfl, rfl⟩ ?_
    simp only [Frame.pduType, foundFrame, hset, if_true]
  · by_cases hinside : payloadStart data < data.length
    · rw [if_pos hinside, if_neg hset] at h
      refine sameApdu_decodeApdu hlen hinside ?_ ?_ (noApdu_reportedHeader data) h
      · exact if_neg hset
      · exact congrArg data.drop (if_neg hset)
    · rw [if_neg hinside] at h
      obtain rfl := Option.some.inj h
      refine hnone (noApdu_reportedHeader data) ?_
      have hempty : data.drop (payloadStart data) = [] :=
        List.drop_eq_nil_of_le (not_lt.mp hinside)
      simp only [Frame.pduType, foundFrame, hset, Bool.false_eq_true, if_false, hempty]

/-- ReadProperty of the Present_Value of an Analog Output, from a device behind a router. -/
def routedRead : List UInt8 :=
  [0x81, 0x0A, 0x00, 0x15, 0x01, 0x0C, 0x00, 0x07, 0x01, 0x2A, 0x00, 0x05, 0x01, 0x0C, 0x0C, 0x00,
    0x40, 0x00, 0x01, 0x19, 0x55]

end Agree

/-! ## A frame that was sent is read back -/

section Sent

variable {octets xs rest : List UInt8} {p : ℕ}

theorem slice_of_drop (h : octets.drop p = xs ++ rest) : slice octets p (p + xs.length) = xs := by
  rw [slice, h, Nat.add_sub_cancel_left, List.take_left]

/-- A specifier, or none. -/
theorem readSpecifier_given {adr : List UInt8} {net : Option ℕ}
    (hx : ifGiven (specifier adr) net = some xs) (h : octets.drop p = xs ++ rest) :
    readSpecifier net.isSome octets p
      = .ok (net, if net.isSome then adr else [], p + xs.length) := by
  obtain ⟨rfl, rfl⟩ | ⟨n, rfl, hn⟩ := ifGiven_eq_some hx
  · rfl
  · simp only [specifier, Option.bind_eq_bind, Option.bind_eq_some_iff] at hn
    obtain ⟨number, hnumber, length, hlength, hxs⟩ := hn
    obtain ⟨hfits, rfl⟩ := packH_eq_some hnumber
    obtain ⟨hshort, rfl⟩ := packB_eq_some hlength
    obtain ⟨n0, n1, hoctets, -⟩ := octetsOf_two hfits
    have hvalue : value [n0, n1] = n := by
      rw [← hoctets]
      exact value_octetsOf (by omega)
    rw [hoctets] at hxs
    obtain rfl := Option.some.inj hxs
    have hdrop : octets.drop p = [n0, n1, UInt8.ofNat adr.length] ++ (adr ++ rest) := by
      rw [h]
      rfl
    have hheader := slice_of_drop hdrop
    have hadr : octets.drop (p + 3) = adr ++ rest := by
      rw [← List.drop_drop, h]
      rfl
    rw [List.length_cons, List.length_cons, List.length_singleton] at hheader
    have hlength : (UInt8.ofNat adr.length).toNat = adr.length := UInt8.toNat_ofNat_of_lt' hshort
    rw [readSpecifier, if_pos (Option.isSome_some), hheader, unpackHB, ok_bind, hvalue, hlength]
    simp only [slice_of_drop hadr, Option.isSome_some, if_true]
    have hend : p + 3 + adr.length = p + ([n0, n1] ++ [UInt8.ofNat adr.length] ++ adr).length := by
      simp only [List.length_append, List.length_cons, List.length_nil]
      omega
    rw [hend]

/-- A message type, or none. -/
theorem readNetworkMessage_given {message : Option ℕ} (hx : ifGiven packB message = some xs)
    (h : octets.drop p = xs ++ rest) :
    ∃ q, readNetworkMessage message.isSome octets p = .ok (message.map UInt8.ofNat, q)
      ∧ octets.drop q = if message.any (0x80 ≤ ·) then rest.drop 2 else rest := by
  obtain ⟨rfl, rfl⟩ | ⟨n, rfl, hn⟩ := ifGiven_eq_some hx
  · exact ⟨p, rfl, h⟩
  · obtain ⟨hfits, rfl⟩ := packB_eq_some hn
    have hread : octets[p]? = some (UInt8.ofNat n) := by
      rw [← Nat.add_zero p, ← List.getElem?_drop, h]
      rfl
    have hvendor : UInt8.ofNat n ≥ 0x80 ↔ 0x80 ≤ n := by
      rw [ge_iff_le, UInt8.le_iff_toNat_le, UInt8.toNat_ofNat_of_lt' hfits]
      rfl
    refine ⟨if UInt8.ofNat n ≥ 0x80 then p + 3 else p + 1, ?_, ?_⟩
    · rw [readNetworkMessage, if_pos Option.isSome_some, index_eq_ok.mpr hread, ok_bind]
      rfl
    · simp only [hvendor, Option.any_some, decide_eq_true_eq]
      split
      · rw [← List.drop_drop, h]
        rfl
      · rw [← List.drop_drop, h]
        rfl

/-- The reply bit of the control octet. -/
theorem NpduArguments.control_reply (a : NpduArguments) :
    (a.control &&& 0x04 != 0) = a.expectingReply := by
  rw [NpduArguments.control]
  generalize a.networkMessage.isSome = message
  generalize a.dnet.isSome = dest
  generalize a.snet.isSome = src
  generalize a.expectingReply = reply
  revert message dest src reply
  decide

/-- What is read of an NPDU that `npdu` made. -/
theorem readNpdu_npdu {payload npduOctets : List UInt8} {a : NpduArguments}
    (hnpdu : npdu payload a = some npduOctets) (frame : Frame) :
    frame.readNpdu npduOctets = .ok { frame with
      hasNpdu := true
      expectingReply := a.expectingReply
      dnet := a.dnet
      dadr := if a.dnet.isSome then a.dadr else []
      snet := a.snet
      sadr := if a.snet.isSome then a.sadr else []
      networkMessage := a.networkMessage.map UInt8.ofNat
      payload := if a.networkMessage.any (0x80 ≤ ·) then payload.drop 2 else payload
      ok := true } := by
  simp only [npdu, Option.bind_eq_bind, Option.bind_eq_some_iff] at hnpdu
  obtain ⟨dest, hdest, src, hsrc, hops, hhops, message, hmessage, heq⟩ := hnpdu
  obtain ⟨hhasDest, hhasSrc, hmessageBit⟩ := NpduArguments.control_eq a
  have hreply := NpduArguments.control_reply a
  have htail : npduOctets.drop 2 = dest ++ (src ++ (hops ++ (message ++ payload))) := by
    rw [← Option.some.inj heq]
    simp only [List.append_assoc, List.cons_append, List.drop_succ_cons, List.drop_zero]
  have hdestRead := readSpecifier_given hdest htail
  have hsrcRead := readSpecifier_given hsrc (drop_next htail)
  have hhopLength : hops.length = if a.dnet.isSome then 1 else 0 := by
    obtain ⟨hnone, rfl⟩ | ⟨n, hsome, hn⟩ := ifGiven_eq_some hhops
    · rw [hnone]
      rfl
    · obtain ⟨-, rfl⟩ := packB_eq_some hn
      rw [hsome]
      rfl
  have hafter := drop_next (drop_next (drop_next htail))
  obtain ⟨q, hmessageRead, hpayload⟩ := readNetworkMessage_given hmessage hafter
  have hposition : (if a.dnet.isSome then 2 + dest.length + src.length + 1
      else 2 + dest.length + src.length) = 2 + dest.length + src.length + hops.length := by
    rw [hhopLength]
    split <;> rfl
  have hoctets : npduOctets = 0x01 :: a.control :: npduOctets.drop 2 := by
    rw [← Option.some.inj heq]
    rfl
  generalize npduOctets.drop 2 = tail at hoctets
  subst hoctets
  rw [Frame.readNpdu, if_neg (not_not.mpr rfl), hhasDest, hhasSrc, hmessageBit, hreply,
    hdestRead, ok_bind]
  simp only [hsrcRead, ok_bind, hposition, hmessageRead, hpayload]

/-- The octets of `bvlc`: the function, and a length that is not read. -/
theorem bvlc_eq_some {npduOctets data : List UInt8} {broadcast : Bool}
    (h : bvlc npduOctets broadcast = some data) :
    ∃ n0 n1, data = 0x81 :: (if broadcast then 0x0B else 0x0A) :: n0 :: n1 :: npduOctets := by
  simp only [bvlc, bvll, Option.bind_eq_bind, Option.bind_eq_some_iff] at h
  obtain ⟨function, hfunction, length, hlength, hdata⟩ := h
  obtain ⟨-, rfl⟩ := packB_eq_some hfunction
  obtain ⟨hfits, rfl⟩ := packH_eq_some hlength
  obtain ⟨n0, n1, hoctets, -⟩ := octetsOf_two hfits
  rw [hoctets] at hdata
  obtain rfl := Option.some.inj hdata
  cases broadcast with
  | false => exact ⟨n0, n1, rfl⟩
  | true => exact ⟨n0, n1, rfl⟩

/-- **A frame made by `bvlc(npdu(…))` is read back**: the route, the message type and what it
carries, after a vendor identifier. -/
theorem decode_bvlc_npdu {payload npduOctets data : List UInt8} {a : NpduArguments}
    {broadcast : Bool} (hnpdu : npdu payload a = some npduOctets)
    (hbvlc : bvlc npduOctets broadcast = some data) :
    Frame.decode data = .ok
      { bvlcFunction := some (if broadcast then 0x0B else 0x0A)
        bvllData := npduOctets
        hasNpdu := true
        expectingReply := a.expectingReply
        dnet := a.dnet
        dadr := if a.dnet.isSome then a.dadr else []
        snet := a.snet
        sadr := if a.snet.isSome then a.sadr else []
        networkMessage := a.networkMessage.map UInt8.ofNat
        payload := if a.networkMessage.any (0x80 ≤ ·) then payload.drop 2 else payload
        ok := true } := by
  obtain ⟨n0, n1, rfl⟩ := bvlc_eq_some hbvlc
  cases broadcast with
  | false => exact readNpdu_npdu hnpdu _
  | true => exact readNpdu_npdu hnpdu _

/-- What `npdu` puts before its payload is short, and does not depend on it. -/
theorem npdu_append {payload npduOctets : List UInt8} {a : NpduArguments}
    (h : npdu payload a = some npduOctets) :
    ∃ head, npduOctets = head ++ payload ∧ head.length ≤ 520
      ∧ ∀ payload', npdu payload' a = some (head ++ payload') := by
  simp only [npdu, Option.bind_eq_bind, Option.bind_eq_some_iff] at h
  obtain ⟨dest, hdest, src, hsrc, hops, hhops, message, hmessage, heq⟩ := h
  have hspecifier : ∀ {adr : List UInt8} {net : Option ℕ} {xs : List UInt8},
      ifGiven (specifier adr) net = some xs → xs.length ≤ 258 := by
    intro adr net xs h
    obtain ⟨-, rfl⟩ | ⟨n, -, hn⟩ := ifGiven_eq_some h
    · exact Nat.zero_le _
    · simp only [specifier, Option.bind_eq_bind, Option.bind_eq_some_iff] at hn
      obtain ⟨number, hnumber, length, hlength, hxs⟩ := hn
      obtain ⟨hfits, rfl⟩ := packH_eq_some hnumber
      obtain ⟨hshort, rfl⟩ := packB_eq_some hlength
      obtain ⟨n0, n1, hoctets, -⟩ := octetsOf_two hfits
      rw [hoctets] at hxs
      obtain rfl := Option.some.inj hxs
      simp only [List.length_append, List.length_cons, List.length_nil]
      omega
  have hone : ∀ (encode : ℕ → ℕ) {v : Option ℕ} {xs : List UInt8},
      ifGiven (fun n => packB (encode n)) v = some xs → xs.length ≤ 1 := by
    intro encode v xs h
    obtain ⟨-, rfl⟩ | ⟨n, -, hn⟩ := ifGiven_eq_some h
    · exact Nat.zero_le _
    · obtain ⟨-, rfl⟩ := packB_eq_some hn
      exact le_rfl
  have hdestLength := hspecifier hdest
  have hsrcLength := hspecifier hsrc
  have hhopsLength := hone (fun _ => a.hopCount) hhops
  have hmessageLength := hone id hmessage
  refine ⟨0x01 :: a.control :: dest ++ src ++ hops ++ message, (Option.some.inj heq).symm, ?_,
    fun payload' => ?_⟩
  · simp only [List.length_append, List.length_cons]
    omega
  · simp only [npdu, hdest, hsrc, hhops, hmessage]
    rfl

/-- **A frame that is cut off in what it carries** is read as one that carries less. -/
theorem decode_take_bvlc_npdu {payload npduOctets data : List UInt8} {a : NpduArguments}
    {broadcast : Bool} {limit : ℕ} (hnpdu : npdu payload a = some npduOctets)
    (hbvlc : bvlc npduOctets broadcast = some data) (hlimit : 1024 ≤ limit)
    (hmessage : a.networkMessage = none) :
    ∃ kept frame, 500 ≤ kept ∧ Frame.decode (data.take limit) = .ok frame ∧ frame.ok = true
      ∧ frame.networkMessage = none ∧ frame.payload = payload.take kept ∧ frame.snet = a.snet
      ∧ frame.sadr = if a.snet.isSome then a.sadr else [] := by
  obtain ⟨n0, n1, rfl⟩ := bvlc_eq_some hbvlc
  obtain ⟨head, rfl, hhead, hany⟩ := npdu_append hnpdu
  have htake : ∀ f : UInt8, (0x81 :: f :: n0 :: n1 :: (head ++ payload)).take limit
      = 0x81 :: f :: n0 :: n1 :: (head ++ payload.take (limit - 4 - head.length)) := by
    intro f
    obtain ⟨rest, rfl⟩ := Nat.exists_eq_add_of_le' (show 4 ≤ limit by omega)
    simp only [List.take_succ_cons, List.take_append, Nat.add_sub_cancel]
    rw [List.take_of_length_le (show head.length ≤ rest by omega)]
  have hread := readNpdu_npdu (hany (payload.take (limit - 4 - head.length)))
  rw [hmessage] at hread
  rw [htake]
  cases broadcast with
  | false => exact ⟨_, _, by omega, hread _, rfl, rfl, rfl, rfl, rfl⟩
  | true => exact ⟨_, _, by omega, hread _, rfl, rfl, rfl, rfl, rfl⟩

end Sent

end Controller
