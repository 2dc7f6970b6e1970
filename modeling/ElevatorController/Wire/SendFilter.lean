import ElevatorController.Model.Send
import ElevatorController.Wire.Apdu

/-!
# Wire/SendFilter — the send filter and the decoder agree

    decodeBacnetFrame     ── 32-bit cursor ──▸ payloadStart
    isStackChosenBroadcast ── 16-bit cursor ──▸ payloadStart

Two walks over one header.  Both are read through the layout of the frame: where the header lies
inside it, each ends at `payloadStart`, and there they see the same octets.
-/

namespace Controller

open Layout

/-- What the decoder reports of an answer that the stack addresses itself: an original NPDU of
version 1, with a network layer message, an I-Am or an I-Have. -/
def DecodedFrame.StackChosen (d : DecodedFrame) : Prop :=
  (d.bvlcFunction = 0x0A ∨ d.bvlcFunction = 0x0B) ∧ d.npduVersion = 1
    ∧ (d.isNetworkMessage ∨ d.hasApdu ∧ d.pduType = 1 ∧ d.hasServiceChoice
      ∧ (d.serviceChoice = 0 ∨ d.serviceChoice = 1))

/-- The PDU type, as the filter reads it and as the decoder does. -/
theorem pduType_eq_one_iff (b : UInt8) : b >>> 4 = 1 ↔ ((b >>> 4) &&& 0x0F).toNat = 1 := by
  have hlt := b.toNat_lt
  rw [← UInt8.toNat_inj, UInt8.toNat_and, UInt8.toNat_shiftRight]
  change b.toNat >>> 4 = 1 ↔ b.toNat >>> 4 &&& 2 ^ 4 - 1 = 1
  rw [Nat.and_two_pow_sub_one_eq_mod, Nat.shiftRight_eq_div_pow]
  omega

variable {frame : List UInt8}

/-! ## The filter's walk -/

/-- A specifier that lies inside the message is skipped. -/
theorem skipSpecifier_at {present : Bool} {i : ℕ} (hi : i ≤ 1000)
    (hinside : present → i + 3 ≤ frame.length) (next : ℕ → Option Bool) :
    skipSpecifier frame present i next
      = next (if present then i + 3 + (octetAt frame (i + 2)).toNat else i) := by
  have hoctet := (octetAt frame (i + 2)).toNat_lt
  rw [skipSpecifier]
  by_cases hpresent : present = true
  · have hroom := hinside hpresent
    rw [if_pos hpresent, if_neg (by omega),
      getElem?_eq_octetAt (show i + 2 < frame.length by omega), if_pos hpresent]
    simp only [Option.bind_eq_bind, Option.bind_some]
    rw [u16_eq (by omega), add_assoc]
  · rw [if_neg hpresent, if_neg hpresent]

/-- What the filter says of the octets after the header. -/
def chosenPayload (message : List UInt8) (control : UInt8) (i : ℕ) : Option Bool :=
  if control &&& 0x80 ≠ 0 then some true
  else if ¬ i + 2 ≤ message.length then some false
  else do
    let pdu ← message[i]?
    if pdu >>> 4 ≠ 1 then some false
    else do
      let service ← message[i + 1]?
      some (service = 0 ∨ service = 1)

theorem chosenPayload_at (control : UInt8) {i : ℕ} (hi : i < frame.length) :
    chosenPayload frame control i = some (decide (control &&& 0x80 ≠ 0
      ∨ i + 2 ≤ frame.length ∧ octetAt frame i >>> 4 = 1
        ∧ (octetAt frame (i + 1) = 0 ∨ octetAt frame (i + 1) = 1))) := by
  rw [chosenPayload]
  by_cases hnet : control &&& 0x80 ≠ 0
  · rw [if_pos hnet, decide_eq_true (Or.inl hnet)]
  rw [if_neg hnet]
  by_cases hroom : i + 2 ≤ frame.length
  · rw [if_neg (not_not.mpr hroom), getElem?_eq_octetAt hi,
      getElem?_eq_octetAt (show i + 1 < frame.length by omega)]
    simp only [Option.bind_eq_bind, Option.bind_some]
    by_cases hpdu : octetAt frame i >>> 4 = 1
    · rw [if_neg (not_not.mpr hpdu)]
      exact congrArg some (decide_eq_decide.mpr
        ⟨fun h => Or.inr ⟨hroom, hpdu, h⟩, fun h => (h.resolve_left hnet).2.2⟩)
    · rw [if_pos hpdu, decide_eq_false fun h => hpdu (h.resolve_left hnet).2.1]
  · rw [if_pos hroom, decide_eq_false fun h => hroom (h.resolve_left hnet).1]

/-- **The filter, where the header lies inside the frame.** -/
theorem isStackChosenBroadcast_at (hnpdu : HasNpdu frame)
    (hfunction : octetAt frame 1 = 0x0A ∨ octetAt frame 1 = 0x0B)
    (hpayload : payloadStart frame < frame.length) :
    isStackChosenBroadcast frame = if octetAt frame 4 = 1 then
      chosenPayload frame (Layout.control frame) (payloadStart frame) else some false := by
  have hstart := npduStart_eq_four frame hfunction
  have hsix : destStart frame = 4 + 2 := by rw [destStart, hstart]
  have hcontrol : octetAt frame (4 + 1) = Layout.control frame := by rw [Layout.control, hstart]
  have hdestSrc := destStart_le_srcStart frame
  have hsrcHop := srcStart_le_hopStart frame
  have hhopPayload := hopStart_le_payloadStart frame
  have hlast := payloadStart_le frame
  have hsrcInside : hasDest frame → destStart frame + 3 ≤ frame.length := fun hdest => by
    have hstop := srcStart_of_hasDest frame hdest
    omega
  have hhopInside : hasSrc frame → srcStart frame + 3 ≤ frame.length := fun hsrc => by
    have hstop := hopStart_of_hasSrc frame hsrc
    omega
  have hcursor : (if hasDest frame then u16 (hopStart frame + 1) else hopStart frame)
      = payloadStart frame := by rw [payloadStart, u16_eq (by omega)]
  rw [isStackChosenBroadcast, if_neg (by omega),
    getElem?_eq_octetAt (show 0 < frame.length by omega),
    getElem?_eq_octetAt (show 1 < frame.length by omega),
    getElem?_eq_octetAt (show 4 < frame.length by omega),
    getElem?_eq_octetAt (show 4 + 1 < frame.length by omega)]
  simp only [Option.bind_eq_bind, Option.bind_some]
  rw [if_neg (not_not.mpr hnpdu.bvlcType), if_neg (by tauto), if_neg (by omega), hcontrol,
    u16_eq (by norm_num)]
  by_cases hversion : octetAt frame 4 = 1
  · rw [if_neg (not_not.mpr hversion), if_pos hversion, ← hsix]
    change skipSpecifier frame (hasDest frame) (destStart frame) _ = _
    rw [skipSpecifier_at (by omega) hsrcInside]
    change skipSpecifier frame (hasSrc frame) (srcStart frame) _ = _
    rw [skipSpecifier_at (by omega) hhopInside]
    change chosenPayload frame (Layout.control frame)
      (if hasDest frame then u16 (hopStart frame + 1) else hopStart frame) = _
    rw [hcursor]
  · rw [if_pos hversion, if_neg hversion]

/-! ## The decoder's report -/

/-- What the decoder reports of an APDU, as far as the filter asks. -/
theorem decodeApdu_unconfirmed_iff {offset : ℕ} {d e : DecodedFrame} (hd : d.NoApdu)
    (hlen : frame.length ≤ 65535) (hoffset : offset < frame.length)
    (he : decodeApdu frame offset d = some e) :
    (e.hasApdu ∧ e.pduType = 1 ∧ e.hasServiceChoice
        ∧ (e.serviceChoice = 0 ∨ e.serviceChoice = 1))
      ↔ (offset + 2 ≤ frame.length ∧ octetAt frame offset >>> 4 = 1
        ∧ (octetAt frame (offset + 1) = 0 ∨ octetAt frame (offset + 1) = 1)) := by
  rw [decodeApdu_eq, getElem?_eq_octetAt hoffset] at he
  replace he : decodeRest frame offset (octetAt frame offset) d = some e := he
  rw [pduType_eq_one_iff]
  by_cases hpdu : ((octetAt frame offset >>> 4) &&& 0x0F).toNat = 1
  · rw [decodeRest, hpdu] at he
    replace he : decodeService frame (u32 (offset + 1)) [] (d.withPdu 1 d.segmented) = some e := he
    rw [decodeService, u32_eq_of_le (by omega)] at he
    split at he
    · obtain rfl := Option.some.inj he
      constructor
      · rintro ⟨-, -, hservice, -⟩
        exact absurd (hd.hasServiceChoice.symm.trans hservice) (by decide)
      · rintro ⟨hroom, -⟩
        omega
    · rename_i hroom
      rw [getElem?_eq_octetAt (by omega)] at he
      obtain rfl := Option.some.inj he
      exact ⟨fun h => ⟨by omega, hpdu, h.2.2.2⟩, fun h => ⟨rfl, rfl, rfl, h.2.2⟩⟩
  · obtain ⟨segmented, hextends⟩ := extends_decodeRest hd he
    constructor
    · rintro ⟨hapdu, htype, -⟩
      have hreported := hextends.pduType _ rfl
      rw [DecodedFrame.reportedPduType, if_pos hapdu, htype] at hreported
      exact absurd (Option.some.inj hreported).symm hpdu
    · rintro ⟨-, h, -⟩
      exact absurd h hpdu

/-- **The two walks land on the same octet**: an original NPDU. -/
theorem chosen_eq_stackChosen (hlen : frame.length ≤ 65535) (hnpdu : HasNpdu frame)
    (hfunction : octetAt frame 1 = 0x0A ∨ octetAt frame 1 = 0x0B)
    (hpayload : payloadStart frame < frame.length) {d : DecodedFrame}
    (hd : reportedPayload frame (reportedHeader frame) = some d) :
    ∃ b, isStackChosenBroadcast frame = some b ∧ (b = true ↔ d.StackChosen) := by
  have hbefore := beforeApdu_reportedPayload hd
  have hbvlc : d.bvlcFunction = octetAt frame 1 := (congrArg DecodedFrame.bvlcFunction hbefore :)
  have hversion : d.npduVersion = octetAt frame 4 :=
    npduStart_eq_four frame hfunction ▸ (congrArg DecodedFrame.npduVersion hbefore :)
  have hnet : d.isNetworkMessage = isNetworkMessage frame :=
    (congrArg DecodedFrame.isNetworkMessage hbefore :)
  rw [DecodedFrame.StackChosen, hbvlc, hversion, hnet, and_iff_right hfunction,
    isStackChosenBroadcast_at hnpdu hfunction hpayload, chosenPayload_at _ hpayload]
  by_cases hone : octetAt frame 4 = 1
  · rw [if_pos hone, and_iff_right hone]
    refine ⟨_, rfl, decide_eq_true_iff.trans ?_⟩
    rw [isNetworkMessage, bne_iff_ne]
    refine or_congr_right' fun hmessage => ?_
    have hapdu : ¬ isNetworkMessage frame := fun h => hmessage (bne_iff_ne.mp h)
    rw [reportedPayload, if_pos hpayload, if_neg hapdu] at hd
    exact (decodeApdu_unconfirmed_iff (noApdu_reportedHeader frame) hlen hpayload hd).symm
  · rw [if_neg hone]
    exact ⟨false, rfl, iff_of_false Bool.false_ne_true fun h => hone h.1⟩

/-- A message that is not an original NPDU is not copied. -/
theorem isStackChosenBroadcast_of_not_original (hsix : 6 ≤ frame.length)
    (h : ¬ (octetAt frame 0 = 0x81 ∧ (octetAt frame 1 = 0x0A ∨ octetAt frame 1 = 0x0B))) :
    isStackChosenBroadcast frame = some false := by
  rw [isStackChosenBroadcast, if_neg (by omega),
    getElem?_eq_octetAt (show 0 < frame.length by omega),
    getElem?_eq_octetAt (show 1 < frame.length by omega)]
  by_cases htype : octetAt frame 0 = 0x81
  · refine (if_neg (not_not.mpr htype)).trans (if_pos ?_)
    tauto
  · exact if_pos htype

/-- **The filter is the decoder's report.** -/
theorem isStackChosenBroadcast_eq (hlen : frame.length ≤ 65535)
    (hpayload : payloadStart frame < frame.length) {d : DecodedFrame}
    (hd : decodeBacnetFrame frame = some d) :
    ∃ b, isStackChosenBroadcast frame = some b ∧ (b = true ↔ d.StackChosen) := by
  have hdestSrc := destStart_le_srcStart frame
  have hsrcHop := srcStart_le_hopStart frame
  have hhopPayload := hopStart_le_payloadStart frame
  have hsix : 6 ≤ destStart frame := by
    have hcases := npduStart_cases frame
    rw [destStart]
    omega
  by_cases horiginal : octetAt frame 0 = 0x81 ∧ (octetAt frame 1 = 0x0A ∨ octetAt frame 1 = 0x0B)
  · obtain ⟨htype, hfunction⟩ := horiginal
    have hnpdu : HasNpdu frame := ⟨by omega, htype, by tauto, by omega⟩
    rw [decodeBacnetFrame_eq hlen hnpdu] at hd
    exact chosen_eq_stackChosen hlen hnpdu hfunction hpayload hd
  · refine ⟨false, isStackChosenBroadcast_of_not_original (by omega) horiginal,
      iff_of_false Bool.false_ne_true fun hchosen => horiginal ?_⟩
    by_cases hnpdu : HasNpdu frame
    · rw [decodeBacnetFrame_eq hlen hnpdu] at hd
      have hbvlc : d.bvlcFunction = octetAt frame 1 :=
        (congrArg DecodedFrame.bvlcFunction (beforeApdu_reportedPayload hd) :)
      exact ⟨hnpdu.bvlcType, hbvlc ▸ hchosen.1⟩
    · -- without an NPDU no version is reported
      obtain ⟨bacnetIp, bvlcFunction, hbvlc⟩ := decodeBacnetFrame_of_not_hasNpdu hnpdu
      obtain rfl := Option.some.inj (hd.symm.trans hbvlc)
      exact absurd hchosen.2.1 (show (0 : UInt8) ≠ 1 by decide)

/-! ## What is copied -/

/-- A message that the filter refuses is sent once at most. -/
theorem helperSendMessage_of_not_chosen (h : isStackChosenBroadcast frame = some false)
    (host : HostNetwork) (bindings : List UdpBinding) (connectionString : List UInt8)
    (networkPortInstance : ℕ) (broadcast : Bool) :
    ∃ sent datagrams, helperSendMessage host bindings frame connectionString networkPortInstance
      broadcast = some (sent, datagrams) ∧ datagrams.length ≤ 1 := by
  rw [helperSendMessage]
  split
  · exact ⟨_, _, rfl, Nat.zero_le _⟩
  · split
    · exact ⟨_, _, rfl, Nat.zero_le _⟩
    · split
      · exact ⟨_, _, rfl, Nat.zero_le _⟩
      · dsimp only
        split
        · rw [h]
          exact ⟨_, _, rfl, le_rfl⟩
        · exact ⟨_, _, rfl, le_rfl⟩

/-- **The send filter and the decoder agree.**  Of a frame whose header is followed by an octet, the
filter says yes exactly when the decoder reports an original NPDU of version 1 with a network layer
message, an I-Am or an I-Have.  So a Forwarded-NPDU, a confirmed request and an event notification
are sent once at most, whatever their routing fields. -/
theorem send_filter_agrees (hlen : frame.length ≤ 65535)
    (hpayload : payloadStart frame < frame.length) :
    ∃ d b, decodeBacnetFrame frame = some d ∧ isStackChosenBroadcast frame = some b
      ∧ (b = true ↔ d.StackChosen)
      ∧ (d.bvlcFunction = 0x04 ∨ d.isNetworkMessage = false
            ∧ (d.pduType = 0 ∨ d.pduType = 1 ∧ d.serviceChoice = 3) →
          ∀ host bindings connectionString networkPortInstance broadcast,
            ∃ sent datagrams, helperSendMessage host bindings frame connectionString
              networkPortInstance broadcast = some (sent, datagrams) ∧ datagrams.length ≤ 1) := by
  obtain ⟨d, hd, -⟩ := yields_decodeBacnetFrame hlen
  obtain ⟨b, hb, hiff⟩ := isStackChosenBroadcast_eq hlen hpayload hd
  refine ⟨d, b, hd, hb, hiff, fun hkind => ?_⟩
  have hnot : ¬ d.StackChosen := by
    rintro ⟨hfunction, -, hanswer⟩
    rcases hkind with hforwarded | ⟨hmessage, hkind⟩
    · rw [hforwarded] at hfunction
      exact absurd hfunction (by decide)
    · rw [hmessage] at hanswer
      obtain ⟨-, htype, -, hservice⟩ := hanswer.resolve_left nofun
      rcases hkind with hconfirmed | ⟨-, hevent⟩
      · rw [hconfirmed] at htype
        exact absurd htype (by decide)
      · rw [hevent] at hservice
        exact absurd hservice (by decide)
  obtain rfl : b = false := Bool.eq_false_iff.mpr fun h => hnot (hiff.mp h)
  exact helperSendMessage_of_not_chosen hb

/-- An I-Am routed to a network with a DADR of two octets, from another with none. -/
def routedIAm : List UInt8 :=
  [0x81, 0x0B, 0, 18, 0x01, 0x28, 0x00, 0x05, 2, 0xAA, 0xBB, 0x00, 0x07, 0, 0xFF, 0x10, 0x00, 0xC4]

/-- The routed I-Am is one of the frames. -/
theorem send_filter_agrees_routedIAm :
    ∃ d b, decodeBacnetFrame routedIAm = some d ∧ isStackChosenBroadcast routedIAm = some b
      ∧ (b = true ↔ d.StackChosen)
      ∧ (d.bvlcFunction = 0x04 ∨ d.isNetworkMessage = false
            ∧ (d.pduType = 0 ∨ d.pduType = 1 ∧ d.serviceChoice = 3) →
          ∀ host bindings connectionString networkPortInstance broadcast,
            ∃ sent datagrams, helperSendMessage host bindings routedIAm connectionString
              networkPortInstance broadcast = some (sent, datagrams) ∧ datagrams.length ≤ 1) :=
  send_filter_agrees (by decide) (by decide)

end Controller
