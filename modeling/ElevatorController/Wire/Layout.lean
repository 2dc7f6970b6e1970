import ElevatorController.Wire.Bounds

/-!
# Wire/Layout — where the parts of a frame are

    81 fn len │ [origin] │ version control │ DNET DLEN DADR │ SNET SLEN SADR │ hops │ payload
    0         4          npduStart         destStart        srcStart         hopStart payloadStart

The control octet says which parts there are, and DLEN and SLEN how long two of them are: the
positions are functions of a few octets, each taken as 0 where the frame has ended.
`decodeBacnetFrame_eq` is the decoder's spec in these terms: every part that ends inside the frame
is reported, and the others keep their defaults.
-/

namespace Controller

variable {frame : List UInt8}

/-- The octet at a position, 0 past the end. -/
def octetAt (frame : List UInt8) (i : ℕ) : UInt8 := frame[i]?.getD 0

/-- The two octets at a position, as a network number. -/
def wordAt (frame : List UInt8) (i : ℕ) : ℕ :=
  (octetAt frame i).toNat <<< 8 ||| (octetAt frame (i + 1)).toNat

theorem getElem?_eq_octetAt {i : ℕ} (h : i < frame.length) :
    frame[i]? = some (octetAt frame i) := by
  rw [octetAt, List.getElem?_eq_getElem h]
  rfl

/-! ## The positions -/

namespace Layout

variable (frame)

/-- The NPDU starts after the BVLC header, and after the origin of a forwarded one. -/
def npduStart : ℕ := if octetAt frame 1 = 0x04 then 10 else 4

def control : UInt8 := octetAt frame (npduStart frame + 1)

def hasDest : Bool := control frame &&& 0x20 != 0

def hasSrc : Bool := control frame &&& 0x08 != 0

def isNetworkMessage : Bool := control frame &&& 0x80 != 0

def destStart : ℕ := npduStart frame + 2

/-- DLEN. -/
def destLength : ℕ := (octetAt frame (destStart frame + 2)).toNat

def srcStart : ℕ :=
  if hasDest frame then destStart frame + 3 + destLength frame else destStart frame

/-- SLEN. -/
def srcLength : ℕ := (octetAt frame (srcStart frame + 2)).toNat

def hopStart : ℕ := if hasSrc frame then srcStart frame + 3 + srcLength frame else srcStart frame

def payloadStart : ℕ := if hasDest frame then hopStart frame + 1 else hopStart frame

/-- The decoder reaches an NPDU: a BVLC function that carries one, and its first two octets. -/
structure HasNpdu : Prop where
  four : 4 ≤ frame.length
  bvlcType : octetAt frame 0 = 0x81
  bvlcFunction : octetAt frame 1 = 0x0A ∨ octetAt frame 1 = 0x0B ∨ octetAt frame 1 = 0x04
  inside : destStart frame ≤ frame.length

theorem npduStart_cases : npduStart frame = 4 ∨ npduStart frame = 10 := by
  rw [npduStart]
  split <;> simp

/-- An NPDU that is not forwarded. -/
theorem npduStart_eq_four (h : octetAt frame 1 = 0x0A ∨ octetAt frame 1 = 0x0B) :
    npduStart frame = 4 := by
  rw [npduStart, if_neg]
  rcases h with h | h <;> rw [h] <;> decide

theorem destLength_lt : destLength frame < 256 := (octetAt frame (destStart frame + 2)).toNat_lt

theorem srcLength_lt : srcLength frame < 256 := (octetAt frame (srcStart frame + 2)).toNat_lt

theorem srcStart_of_hasDest (h : hasDest frame) :
    srcStart frame = destStart frame + 3 + destLength frame := if_pos h

theorem hopStart_of_hasSrc (h : hasSrc frame) :
    hopStart frame = srcStart frame + 3 + srcLength frame := if_pos h

theorem destStart_le_srcStart : destStart frame ≤ srcStart frame := by
  rw [srcStart]
  split <;> omega

theorem srcStart_le_hopStart : srcStart frame ≤ hopStart frame := by
  rw [hopStart]
  split <;> omega

theorem hopStart_le_payloadStart : hopStart frame ≤ payloadStart frame := by
  rw [payloadStart]
  split <;> omega

/-- No frame announces a header of more than 529 octets. -/
theorem payloadStart_le : payloadStart frame ≤ 529 := by
  have hstart := npduStart_cases frame
  have hdest := destLength_lt frame
  have hsrc := srcLength_lt frame
  rw [payloadStart, hopStart, srcStart, destStart]
  split <;> split <;> omega

end Layout

/-! ## What the decoder reports of them -/

open Layout

/-- An address pointer: null for an empty address. -/
def reportedAddress (start length : ℕ) : Option ℕ := if length > 0 then some start else none

/-- What the first two octets report: the version, and the flags as the control octet has them. -/
def reportedControl (frame : List UInt8) : DecodedFrame where
  bacnetIp := true
  bvlcFunction := octetAt frame 1
  hasNpdu := true
  npduVersion := octetAt frame (npduStart frame)
  npduControl := control frame
  hasDest := hasDest frame
  hasSrc := hasSrc frame
  isNetworkMessage := isNetworkMessage frame

/-- What is reported of the destination, as far as the frame goes. -/
def reportedDest (frame : List UInt8) (d : DecodedFrame) : DecodedFrame :=
  { d with
    dnet := if hasDest frame ∧ destStart frame + 3 ≤ frame.length then
      wordAt frame (destStart frame) else 0
    dadr := if hasDest frame ∧ srcStart frame ≤ frame.length then
      reportedAddress (destStart frame + 3) (destLength frame) else none
    dadrLength := if hasDest frame ∧ srcStart frame ≤ frame.length then destLength frame else 0 }

/-- What is reported of the source, as far as the frame goes. -/
def reportedSrc (frame : List UInt8) (d : DecodedFrame) : DecodedFrame :=
  { d with
    snet := if hasSrc frame ∧ srcStart frame + 3 ≤ frame.length then
      wordAt frame (srcStart frame) else 0
    sadr := if hasSrc frame ∧ hopStart frame ≤ frame.length then
      reportedAddress (srcStart frame + 3) (srcLength frame) else none
    sadrLength := if hasSrc frame ∧ hopStart frame ≤ frame.length then srcLength frame else 0 }

/-- What is reported of the header. -/
def reportedHeader (frame : List UInt8) : DecodedFrame :=
  reportedSrc frame (reportedDest frame (reportedControl frame))

/-- What is reported once the header is read: the payload's part, if there is one. -/
def reportedPayload (frame : List UInt8) (d : DecodedFrame) : Option DecodedFrame :=
  if payloadStart frame < frame.length then
    if isNetworkMessage frame then
      some { d with networkMessageType := octetAt frame (payloadStart frame) }
    else decodeApdu frame (payloadStart frame) d
  else some d

section Decoder

variable (hlen : frame.length ≤ 65535) {d : DecodedFrame}
include hlen

/-- A specifier, by how much of it the frame has. -/
theorem decodeSpecifier_at {offset : ℕ} (hoffset : offset ≤ frame.length)
    (setNet : DecodedFrame → ℕ → DecodedFrame) (setAdr : DecodedFrame → Option ℕ → ℕ → DecodedFrame)
    (next : DecodedFrame → ℕ → Option DecodedFrame) :
    decodeSpecifier frame offset d setNet setAdr next
      = if offset + 3 > frame.length then some d
        else if offset + 3 + (octetAt frame (offset + 2)).toNat > frame.length then
          some (setNet d (wordAt frame offset))
        else
          next (setAdr (setNet d (wordAt frame offset))
            (reportedAddress (offset + 3) (octetAt frame (offset + 2)).toNat)
            (octetAt frame (offset + 2)).toNat)
            (offset + 3 + (octetAt frame (offset + 2)).toNat) := by
  have hoctet := (octetAt frame (offset + 2)).toNat_lt
  rw [decodeSpecifier, u32_eq_of_le (show offset + 3 ≤ 200000 by omega),
    u32_eq_of_le (show offset + 2 ≤ 200000 by omega),
    u32_eq_of_le (show offset + 1 ≤ 200000 by omega)]
  split
  · rfl
  · rw [getElem?_eq_octetAt (show offset < frame.length by omega),
      getElem?_eq_octetAt (show offset + 1 < frame.length by omega),
      getElem?_eq_octetAt (show offset + 2 < frame.length by omega)]
    simp only [Option.bind_eq_bind, Option.bind_some]
    rw [u32_eq_of_le (by omega)]
    rfl

/-- The destination specifier. -/
theorem decodeDest_at (h : HasNpdu frame) (next : DecodedFrame → ℕ → Option DecodedFrame) :
    decodeDest frame (destStart frame) (reportedControl frame) next
      = if srcStart frame ≤ frame.length then
          next (reportedDest frame (reportedControl frame)) (srcStart frame)
        else some (reportedDest frame (reportedControl frame)) := by
  have hinside := h.inside
  rw [decodeDest, reportedDest]
  by_cases hdest : hasDest frame = true
  · have hstart := srcStart_of_hasDest frame hdest
    rw [show (reportedControl frame).hasDest = hasDest frame from rfl, if_pos hdest,
      decodeSpecifier_at hlen h.inside, ← destLength, ← hstart]
    by_cases hnet : destStart frame + 3 ≤ frame.length
    · by_cases hall : srcStart frame ≤ frame.length
      · rw [if_neg (not_lt.mpr hnet), if_neg (not_lt.mpr hall), if_pos hall, if_pos ⟨hdest, hnet⟩,
          if_pos ⟨hdest, hall⟩, if_pos ⟨hdest, hall⟩]
        rfl
      · rw [if_neg (not_lt.mpr hnet), if_pos (not_le.mp hall), if_neg hall, if_pos ⟨hdest, hnet⟩,
          if_neg fun h => hall h.2, if_neg fun h => hall h.2]
        rfl
    · have hall : ¬ srcStart frame ≤ frame.length := by omega
      rw [if_pos (not_le.mp hnet), if_neg hall, if_neg fun h => hnet h.2,
        if_neg fun h => hall h.2, if_neg fun h => hall h.2]
      rfl
  · have hstart : srcStart frame = destStart frame := if_neg hdest
    rw [show (reportedControl frame).hasDest = hasDest frame from rfl, if_neg hdest, hstart,
      if_pos hinside, if_neg fun h => hdest h.1, if_neg fun h => hdest h.1,
      if_neg fun h => hdest h.1]
    rfl

/-- The source specifier. -/
theorem decodeSrc_at (hsrc : srcStart frame ≤ frame.length)
    (next : DecodedFrame → ℕ → Option DecodedFrame) :
    decodeSrc frame (srcStart frame) (reportedDest frame (reportedControl frame)) next
      = if hopStart frame ≤ frame.length then next (reportedHeader frame) (hopStart frame)
        else some (reportedHeader frame) := by
  rw [decodeSrc, reportedHeader, reportedSrc]
  by_cases hpresent : hasSrc frame = true
  · have hstart := hopStart_of_hasSrc frame hpresent
    rw [show (reportedDest frame (reportedControl frame)).hasSrc = hasSrc frame from rfl,
      if_pos hpresent, decodeSpecifier_at hlen hsrc, ← srcLength, ← hstart]
    by_cases hnet : srcStart frame + 3 ≤ frame.length
    · by_cases hall : hopStart frame ≤ frame.length
      · rw [if_neg (not_lt.mpr hnet), if_neg (not_lt.mpr hall), if_pos hall,
          if_pos ⟨hpresent, hnet⟩, if_pos ⟨hpresent, hall⟩, if_pos ⟨hpresent, hall⟩]
        rfl
      · rw [if_neg (not_lt.mpr hnet), if_pos (not_le.mp hall), if_neg hall,
          if_pos ⟨hpresent, hnet⟩, if_neg fun h => hall h.2, if_neg fun h => hall h.2]
        rfl
    · have hall : ¬ hopStart frame ≤ frame.length := by omega
      rw [if_pos (not_le.mp hnet), if_neg hall, if_neg fun h => hnet h.2,
        if_neg fun h => hall h.2, if_neg fun h => hall h.2]
      rfl
  · have hstart : hopStart frame = srcStart frame := if_neg hpresent
    rw [show (reportedDest frame (reportedControl frame)).hasSrc = hasSrc frame from rfl,
      if_neg hpresent, hstart, if_pos hsrc, if_neg fun h => hpresent h.1,
      if_neg fun h => hpresent h.1, if_neg fun h => hpresent h.1]
    rfl

/-- The hop count and the payload. -/
theorem decodeHopCount_at (hhop : hopStart frame ≤ frame.length) (hd : d.hasDest = hasDest frame)
    (hnet : d.isNetworkMessage = isNetworkMessage frame) :
    decodeHopCount frame (hopStart frame) d (fun d offset => decodePayload frame d offset)
      = reportedPayload frame d := by
  have hpayload : ∀ offset, offset = payloadStart frame →
      decodePayload frame d offset = reportedPayload frame d := by
    rintro offset rfl
    rw [decodePayload, reportedPayload, hnet]
    by_cases hlt : payloadStart frame < frame.length
    · rw [if_neg (not_le.mpr hlt), if_pos hlt, getElem?_eq_octetAt hlt]
      rfl
    · rw [if_pos (not_lt.mp hlt), if_neg hlt]
  rw [decodeHopCount, hd]
  by_cases hdest : hasDest frame = true
  · rw [if_pos hdest]
    have hstart : payloadStart frame = hopStart frame + 1 := by rw [payloadStart, if_pos hdest]
    split
    · rw [reportedPayload, if_neg (by omega)]
    · rw [u32_eq_of_le (by omega)]
      exact hpayload _ hstart.symm
  · rw [if_neg hdest]
    exact hpayload _ (by rw [payloadStart, if_neg hdest])

/-- **The NPDU, part by part.** -/
theorem decodeNpdu_at (h : HasNpdu frame) :
    decodeNpdu frame (npduStart frame) { bacnetIp := true, bvlcFunction := octetAt frame 1 }
      = reportedPayload frame (reportedHeader frame) := by
  have hinside := h.inside
  have hstart := npduStart_cases frame
  have hdest : npduStart frame + 2 = destStart frame := rfl
  rw [decodeNpdu, u32_eq_of_le (show npduStart frame + 2 ≤ 200000 by omega),
    u32_eq_of_le (show npduStart frame + 1 ≤ 200000 by omega), if_neg (by omega),
    getElem?_eq_octetAt (show npduStart frame < frame.length by omega),
    getElem?_eq_octetAt (show npduStart frame + 1 < frame.length by omega)]
  simp only [Option.bind_eq_bind, Option.bind_some]
  change decodeDest frame (destStart frame) (reportedControl frame) _ = _
  rw [decodeDest_at hlen h]
  have hcut : frame.length < payloadStart frame →
      some (reportedHeader frame) = reportedPayload frame (reportedHeader frame) := fun hlt => by
    rw [reportedPayload, if_neg (by omega)]
  have hhop := srcStart_le_hopStart frame
  have hpayload := hopStart_le_payloadStart frame
  split
  · rename_i hsrc
    rw [decodeSrc_at hlen hsrc]
    split
    · rename_i hall
      exact decodeHopCount_at hlen hall rfl rfl
    · exact hcut (by omega)
  · -- the frame ends in the destination, and so before the source
    rename_i hsrc
    refine Eq.trans ?_ (hcut (by omega))
    rw [reportedHeader, reportedSrc, if_neg (by omega), if_neg (by omega), if_neg (by omega)]
    rfl

/-- **What the decoder reports of a frame that has an NPDU.** -/
theorem decodeBacnetFrame_eq (h : HasNpdu frame) :
    decodeBacnetFrame frame = reportedPayload frame (reportedHeader frame) := by
  have hfour := h.four
  rw [← decodeNpdu_at hlen h, decodeBacnetFrame, if_neg (by omega),
    getElem?_eq_octetAt (show 0 < frame.length by omega),
    getElem?_eq_octetAt (show 1 < frame.length by omega)]
  simp only [Option.bind_eq_bind, Option.bind_some]
  rw [if_neg (not_not.mpr h.bvlcType), npduStart]
  rcases h.bvlcFunction with h1 | h1 | h1
  · rw [if_pos (Or.inl h1), if_neg (by rw [h1]; decide)]
  · rw [if_pos (Or.inr h1), if_neg (by rw [h1]; decide)]
  · rw [if_neg (by rw [h1]; decide), if_pos h1, if_pos h1]

end Decoder

/-- …and of one that has none: the BVLC function at most. -/
theorem decodeBacnetFrame_of_not_hasNpdu (h : ¬ HasNpdu frame) :
    ∃ bacnetIp bvlcFunction, decodeBacnetFrame frame = some { bacnetIp, bvlcFunction } := by
  rw [decodeBacnetFrame]
  split
  · exact ⟨_, _, rfl⟩
  rename_i hfour
  rw [getElem?_eq_octetAt (show 0 < frame.length by omega),
    getElem?_eq_octetAt (show 1 < frame.length by omega)]
  simp only [Option.bind_eq_bind, Option.bind_some]
  split
  · exact ⟨_, _, rfl⟩
  rename_i htype
  have hshort : ∀ start, npduStart frame = start →
      (octetAt frame 1 = 0x0A ∨ octetAt frame 1 = 0x0B ∨ octetAt frame 1 = 0x04) →
      start ≤ 10 →
      decodeNpdu frame start { bacnetIp := true, bvlcFunction := octetAt frame 1 }
        = some { bacnetIp := true, bvlcFunction := octetAt frame 1 } := by
    rintro start rfl hfunction hle
    have hout : ¬ destStart frame ≤ frame.length := fun hinside =>
      h ⟨by omega, not_not.mp htype, hfunction, hinside⟩
    rw [decodeNpdu, u32_eq_of_le (by omega),
      if_pos (show npduStart frame + 2 > frame.length from not_le.mp hout)]
  split
  · rename_i hfunction
    exact ⟨_, _, hshort 4 (npduStart_eq_four frame hfunction) (by tauto) (by norm_num)⟩
  split
  · rename_i hfunction
    exact ⟨_, _, hshort 10 (if_pos hfunction) (Or.inr (Or.inr hfunction)) le_rfl⟩
  · exact ⟨_, _, rfl⟩

end Controller
