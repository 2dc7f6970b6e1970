import ElevatorController.Machinery.CheckedReads
import ElevatorController.Model.Frame

/-!
# Wire/Bounds — the frame decoder stays inside the datagram

Every read of the decoder is behind a check of its own against the frame's length.  The lemmas
follow the functions: each says that from a cursor inside the frame no read fails, and where the
cursor is when the function goes on.  A frame has at most 65535 octets, so no `uint32_t` sum of the
decoder wraps.
-/

namespace Controller

open CheckedReads

variable {frame : List UInt8} {offset pos : ℕ}

theorem u32_eq {n : ℕ} (h : n < 2 ^ 32) : u32 n = n := Nat.mod_eq_of_lt h

theorem u16_eq {n : ℕ} (h : n < 2 ^ 16) : u16 n = n := Nat.mod_eq_of_lt h

/-- A sum of two numbers of at most 16 bits, and a little more, does not wrap. -/
theorem u32_eq_of_le {n : ℕ} (h : n ≤ 200000) : u32 n = n := u32_eq (by omega)

/-! ## Tags -/

section Tags

variable (hlen : frame.length ≤ 65535) {P : Option TagHeader → Prop}
include hlen

theorem yields_decodeTagNumber {b0 : UInt8} (hpos : pos ≤ frame.length) (hnone : P none)
    {next : UInt8 → ℕ → Option (Option TagHeader)}
    (hnext : ∀ n pos', pos ≤ pos' → pos' ≤ frame.length → Yields (next n pos') P) :
    Yields (decodeTagNumber frame b0 pos next) P := by
  rw [decodeTagNumber]
  refine yields_ite (fun _ => yields_ite (fun _ => yields_some hnone) fun hlt => ?_)
    fun _ => hnext _ _ le_rfl hpos
  refine yields_read (not_le.mp hlt) fun n _ => ?_
  rw [u32_eq_of_le (by omega)]
  exact hnext n _ (by omega) (by omega)

theorem yields_decodeExtendedLength (hnone : P none) {next : ℕ → ℕ → Option (Option TagHeader)}
    (hnext : ∀ n pos', pos < pos' → pos' ≤ frame.length → Yields (next n pos') P) :
    Yields (decodeExtendedLength frame pos next) P := by
  rw [decodeExtendedLength]
  refine yields_ite (fun _ => yields_some hnone) fun hlt => ?_
  refine yields_read (not_le.mp hlt) fun lenByte _ => ?_
  simp only [u32_eq_of_le (show pos + 1 ≤ 200000 by omega)]
  refine yields_ite (fun _ => hnext _ _ (by omega) (by omega)) fun _ => yields_ite (fun _ => ?_) ?_
  · rw [u32_eq_of_le (by omega), u32_eq_of_le (by omega)]
    refine yields_ite (fun _ => yields_some hnone) fun hroom => ?_
    refine yields_read (by omega) fun _ _ => yields_read (by omega) fun _ _ => ?_
    exact hnext _ _ (by omega) (by omega)
  · intro _
    rw [u32_eq_of_le (by omega), u32_eq_of_le (by omega), u32_eq_of_le (by omega),
      u32_eq_of_le (by omega)]
    refine yields_ite (fun _ => yields_some hnone) fun hroom => ?_
    refine yields_read (by omega) fun _ _ => yields_read (by omega) fun _ _ =>
      yields_read (by omega) fun _ _ => yields_read (by omega) fun _ _ => ?_
    exact hnext _ _ (by omega) (by omega)

/-- **`DecodeTagHeader` reads inside the frame**, and a header it reports lies inside it. -/
theorem yields_decodeTagHeader (offset : ℕ) : Yields (decodeTagHeader frame offset) fun r =>
    ∀ tag ∈ r, offset + tag.headerLength ≤ frame.length := by
  rw [decodeTagHeader]
  refine yields_ite (fun _ => yields_some nofun) fun hlt => ?_
  refine yields_read (not_le.mp hlt) fun b0 _ => ?_
  simp only [u32_eq_of_le (show offset + 1 ≤ 200000 by omega)]
  have hheader : ∀ pos, offset ≤ pos → pos ≤ frame.length →
      offset + u32 (pos + 2 ^ 32 - offset) ≤ frame.length := fun pos h1 h2 => by
    rw [u32]
    omega
  refine yields_decodeTagNumber hlen (by omega) nofun fun n pos h1 h2 => ?_
  refine yields_ite (fun _ => yields_some ?_) fun _ => yields_ite (fun _ => yields_some ?_)
    fun _ => yields_ite (fun _ => yields_some ?_) fun _ => yields_ite (fun _ => ?_)
    fun _ => yields_some nofun
  · rintro tag ⟨⟩
    exact hheader pos (by omega) h2
  · rintro tag ⟨⟩
    exact hheader pos (by omega) h2
  · rintro tag ⟨⟩
    exact hheader pos (by omega) h2
  · refine yields_decodeExtendedLength hlen nofun fun length pos' h3 h4 => yields_some ?_
    rintro tag ⟨⟩
    exact hheader pos' (by omega) h4

end Tags

/-! ## The property reference -/

/-- An address the decoder reports: a slice of the frame, or the null pointer and no octets. -/
def SliceInside (frame : List UInt8) (start : Option ℕ) (length : ℕ) : Prop :=
  (∀ s ∈ start, s + length ≤ frame.length) ∧ (start = none → length = 0)

/-- Both addresses are slices of the frame. -/
def DecodedFrame.SlicesInside (frame : List UInt8) (d : DecodedFrame) : Prop :=
  SliceInside frame d.dadr d.dadrLength ∧ SliceInside frame d.sadr d.sadrLength

section Apdu

variable (hlen : frame.length ≤ 65535) {d : DecodedFrame}
include hlen

theorem yields_decodeUnsigned {length : ℕ} (h : pos + length ≤ frame.length) :
    Yields (decodeUnsigned frame pos length) fun _ => True := by
  refine yields_foldlM trivial fun v i hi _ => ?_
  have hi : i < length := List.mem_range.mp hi
  rw [u32_eq_of_le (by omega)]
  exact yields_read (by omega) fun _ _ => yields_some trivial

theorem yields_decodeArrayIndex (pos : ℕ) (hd : d.SlicesInside frame) :
    Yields (decodeArrayIndex frame pos d) (DecodedFrame.SlicesInside frame) := by
  refine (yields_decodeTagHeader hlen pos).bind fun r hr => ?_
  cases r with
  | none => exact yields_some hd
  | some idxTag =>
    have htag := hr idxTag rfl
    refine yields_ite (fun hidx => ?_) fun _ => yields_some hd
    obtain ⟨-, -, -, hle, hroom⟩ := hidx
    rw [u32_eq_of_le (by omega)] at hroom
    rw [u32_eq_of_le (by omega)]
    exact (yields_decodeUnsigned hlen (by omega)).bind fun _ _ => yields_some hd

theorem yields_decodeProperty (pos objValue : ℕ) (hd : d.SlicesInside frame) :
    Yields (decodeProperty frame pos objValue d) (DecodedFrame.SlicesInside frame) := by
  refine (yields_decodeTagHeader hlen pos).bind fun r hr => ?_
  cases r with
  | none => exact yields_some hd
  | some propTag =>
    have htag := hr propTag rfl
    refine yields_ite (fun _ => yields_some hd) fun hprop => ?_
    simp only [not_or] at hprop
    obtain ⟨-, -, -, hle, hroom⟩ := hprop
    rw [u32_eq_of_le (by omega)] at hroom
    rw [u32_eq_of_le (by omega)]
    exact (yields_decodeUnsigned hlen (by omega)).bind fun _ _ => yields_decodeArrayIndex hlen _ hd

/-- **`DecodeObjectAndProperty` reads inside the frame**, from any offset. -/
theorem yields_decodeObjectAndProperty (offset : ℕ) (hd : d.SlicesInside frame) :
    Yields (decodeObjectAndProperty frame offset d) (DecodedFrame.SlicesInside frame) := by
  refine (yields_decodeTagHeader hlen offset).bind fun r hr => ?_
  cases r with
  | none => exact yields_some hd
  | some objTag =>
    have htag := hr objTag rfl
    refine yields_ite (fun _ => yields_some hd) fun hobj => ?_
    simp only [not_or] at hobj
    obtain ⟨-, -, -, hroom⟩ := hobj
    rw [u32_eq_of_le (by omega)] at hroom
    simp only [u32_eq_of_le (show offset + objTag.headerLength ≤ 200000 by omega)]
    rw [u32_eq_of_le (by omega), u32_eq_of_le (by omega), u32_eq_of_le (by omega)]
    exact yields_read (by omega) fun _ _ => yields_read (by omega) fun _ _ =>
      yields_read (by omega) fun _ _ => yields_read (by omega) fun _ _ =>
        yields_decodeProperty hlen _ _ hd

/-! ## The APDU -/

theorem yields_decodeService {serviceOffset : ℕ} (services : List UInt8)
    (hd : d.SlicesInside frame) :
    Yields (decodeService frame serviceOffset services d) (DecodedFrame.SlicesInside frame) := by
  rw [decodeService]
  refine yields_ite (fun _ => yields_some hd) fun hlt => ?_
  exact yields_read (not_le.mp hlt) fun _ _ =>
    yields_ite (fun _ => yields_decodeObjectAndProperty hlen _ hd) fun _ => yields_some hd

theorem yields_decodeApdu (hlt : offset < frame.length) (hd : d.SlicesInside frame) :
    Yields (decodeApdu frame offset d) (DecodedFrame.SlicesInside frame) := by
  rw [decodeApdu]
  refine yields_read hlt fun b0 _ => ?_
  rw [u32_eq_of_le (show offset + 1 ≤ 200000 by omega),
    u32_eq_of_le (show offset + 2 ≤ 200000 by omega)]
  dsimp only
  split
  · refine yields_ite (fun _ => yields_some hd) fun h => ?_
    exact yields_read (not_le.mp h) fun _ _ => yields_decodeService hlen _ hd
  · refine yields_ite (fun _ => yields_some hd) fun h => ?_
    exact yields_read (not_le.mp h) fun _ _ => yields_some hd
  · refine yields_ite (fun _ => yields_some hd) fun h => ?_
    exact yields_read (not_le.mp h) fun _ _ => yields_decodeService hlen _ hd
  · refine yields_ite (fun _ => yields_some hd) fun h => ?_
    exact yields_read (by omega) fun _ _ => yields_read (not_le.mp h) fun _ _ => yields_some hd
  · refine yields_ite (fun _ => yields_some hd) fun h => ?_
    exact yields_read (by omega) fun _ _ => yields_read (not_le.mp h) fun _ _ => yields_some hd
  · refine yields_ite (fun _ => yields_some hd) fun h => ?_
    exact yields_read (by omega) fun _ _ => yields_read (not_le.mp h) fun _ _ => yields_some hd
  · refine yields_ite (fun _ => yields_some hd) fun h => ?_
    exact yields_read (by omega) fun _ _ => yields_read (not_le.mp h) fun _ _ => yields_some hd
  · exact yields_some hd

end Apdu

/-! ## The NPDU -/

section Npdu

variable (hlen : frame.length ≤ 65535) {P : DecodedFrame → Prop} {d : DecodedFrame}
include hlen

/-- A specifier leaves the cursor inside the frame, and its address is a slice of the frame. -/
theorem yields_decodeSpecifier {setNet : DecodedFrame → ℕ → DecodedFrame}
    {setAdr : DecodedFrame → Option ℕ → ℕ → DecodedFrame}
    {next : DecodedFrame → ℕ → Option DecodedFrame} (hcursor : offset ≤ frame.length) (hd : P d)
    (hnet : ∀ net, P (setNet d net))
    (hnext : ∀ net start length pos, SliceInside frame start length → pos ≤ frame.length →
      Yields (next (setAdr (setNet d net) start length) pos) P) :
    Yields (decodeSpecifier frame offset d setNet setAdr next) P := by
  rw [decodeSpecifier, u32_eq_of_le (show offset + 3 ≤ 200000 by omega),
    u32_eq_of_le (show offset + 2 ≤ 200000 by omega),
    u32_eq_of_le (show offset + 1 ≤ 200000 by omega)]
  refine yields_ite (fun _ => yields_some hd) fun hroom => ?_
  refine yields_read (by omega) fun n0 _ => yields_read (by omega) fun n1 _ =>
    yields_read (by omega) fun len _ => ?_
  have hoctet : len.toNat < 256 := len.toNat_lt
  dsimp only
  rw [u32_eq_of_le (show offset + 3 + len.toNat ≤ 200000 by omega)]
  refine yields_ite (fun _ => yields_some (hnet _)) fun hinside => ?_
  refine hnext _ _ _ _ ⟨fun s hs => ?_, fun hs => ?_⟩ (not_lt.mp hinside)
  · split at hs
    · rw [← Option.some.inj hs]
      exact not_lt.mp hinside
    · exact absurd hs nofun
  · split at hs
    · exact absurd hs nofun
    · omega

theorem yields_decodeDest {next : DecodedFrame → ℕ → Option DecodedFrame}
    (hcursor : offset ≤ frame.length) (hd : d.SlicesInside frame)
    (hnext : ∀ d pos, d.SlicesInside frame → pos ≤ frame.length →
      Yields (next d pos) (DecodedFrame.SlicesInside frame)) :
    Yields (decodeDest frame offset d next) (DecodedFrame.SlicesInside frame) := by
  rw [decodeDest]
  refine yields_ite (fun _ => ?_) fun _ => hnext d offset hd hcursor
  exact yields_decodeSpecifier hlen hcursor hd (fun _ => hd)
    fun _ start length pos hslice hpos => hnext _ pos ⟨hslice, hd.2⟩ hpos

theorem yields_decodeSrc {next : DecodedFrame → ℕ → Option DecodedFrame}
    (hcursor : offset ≤ frame.length) (hd : d.SlicesInside frame)
    (hnext : ∀ d pos, d.SlicesInside frame → pos ≤ frame.length →
      Yields (next d pos) (DecodedFrame.SlicesInside frame)) :
    Yields (decodeSrc frame offset d next) (DecodedFrame.SlicesInside frame) := by
  rw [decodeSrc]
  refine yields_ite (fun _ => ?_) fun _ => hnext d offset hd hcursor
  exact yields_decodeSpecifier hlen hcursor hd (fun _ => hd)
    fun _ start length pos hslice hpos => hnext _ pos ⟨hd.1, hslice⟩ hpos

omit hlen in
theorem yields_decodeHopCount {next : DecodedFrame → ℕ → Option DecodedFrame}
    (hd : d.SlicesInside frame)
    (hnext : ∀ pos, Yields (next d pos) (DecodedFrame.SlicesInside frame)) :
    Yields (decodeHopCount frame offset d next) (DecodedFrame.SlicesInside frame) := by
  rw [decodeHopCount]
  exact yields_ite (fun _ => yields_ite (fun _ => yields_some hd) fun _ => hnext _)
    fun _ => hnext _

theorem yields_decodePayload (offset : ℕ) (hd : d.SlicesInside frame) :
    Yields (decodePayload frame d offset) (DecodedFrame.SlicesInside frame) := by
  rw [decodePayload]
  refine yields_ite (fun _ => yields_some hd) fun hlt => yields_ite (fun _ => ?_) fun _ => ?_
  · exact yields_read (not_le.mp hlt) fun _ _ => yields_some hd
  · exact yields_decodeApdu hlen (not_le.mp hlt) hd

theorem yields_decodeNpdu (hoffset : offset ≤ 10) (hd : d.SlicesInside frame) :
    Yields (decodeNpdu frame offset d) (DecodedFrame.SlicesInside frame) := by
  rw [decodeNpdu, u32_eq_of_le (show offset + 2 ≤ 200000 by omega),
    u32_eq_of_le (show offset + 1 ≤ 200000 by omega)]
  refine yields_ite (fun _ => yields_some hd) fun hroom => ?_
  refine yields_read (by omega) fun _ _ => yields_read (by omega) fun _ _ => ?_
  exact yields_decodeDest hlen (not_lt.mp hroom) hd fun d pos hd hpos =>
    yields_decodeSrc hlen hpos hd fun d pos hd _ =>
      yields_decodeHopCount hd fun pos => yields_decodePayload hlen pos hd

/-- **`DecodeBacnetFrame` reads inside the frame**, and so do the addresses it reports. -/
theorem yields_decodeBacnetFrame :
    Yields (decodeBacnetFrame frame) (DecodedFrame.SlicesInside frame) := by
  have hd : ∀ d : DecodedFrame, d.dadr = none → d.dadrLength = 0 → d.sadr = none →
      d.sadrLength = 0 → d.SlicesInside frame := fun d h1 h2 h3 h4 => by
    refine ⟨⟨fun s hs => ?_, fun _ => h2⟩, ⟨fun s hs => ?_, fun _ => h4⟩⟩
    · exact absurd (h1 ▸ hs) nofun
    · exact absurd (h3 ▸ hs) nofun
  rw [decodeBacnetFrame]
  refine yields_ite (fun _ => yields_some (hd _ rfl rfl rfl rfl)) fun hfour => ?_
  refine yields_read (by omega) fun _ _ => ?_
  refine yields_ite (fun _ => yields_some (hd _ rfl rfl rfl rfl)) fun _ => ?_
  refine yields_read (by omega) fun _ _ => ?_
  refine yields_ite (fun _ => ?_) fun _ => yields_ite (fun _ => ?_) fun _ => ?_
  · exact yields_decodeNpdu hlen (by norm_num) (hd _ rfl rfl rfl rfl)
  · exact yields_decodeNpdu hlen (by norm_num) (hd _ rfl rfl rfl rfl)
  · exact yields_some (hd _ rfl rfl rfl rfl)

/-! ## The test for a broadcast the stack chose -/

omit hlen in
/-- A skipped specifier leaves the cursor below `523 = 6 + 2 · (3 + 255) + 1`, wherever the frame
ends. -/
theorem yields_skipSpecifier {present : Bool} {i : ℕ} (hi : i ≤ 1000) {next : ℕ → Option Bool}
    (hnext : ∀ j ≤ i + 258, Yields (next j) fun _ => True) :
    Yields (skipSpecifier frame present i next) fun _ => True := by
  rw [skipSpecifier]
  refine yields_ite (fun _ => ?_) fun _ => hnext i (by omega)
  refine yields_ite (fun _ => yields_some trivial) fun hroom => ?_
  refine yields_read (by omega) fun len _ => ?_
  have hoctet : len.toNat < 256 := len.toNat_lt
  rw [u16_eq (by omega)]
  exact hnext _ (by omega)

/-- **`IsStackChosenBroadcast` reads inside the message.** -/
theorem yields_isStackChosenBroadcast : Yields (isStackChosenBroadcast frame) fun _ => True := by
  rw [isStackChosenBroadcast]
  refine yields_ite (fun _ => yields_some trivial) fun hsix => ?_
  refine yields_read (by omega) fun _ _ => yields_ite (fun _ => yields_some trivial) fun _ => ?_
  refine yields_read (by omega) fun _ _ => yields_ite (fun _ => yields_some trivial) fun _ => ?_
  refine yields_ite (fun _ => yields_some trivial) fun _ => ?_
  refine yields_read (by omega) fun _ _ => yields_ite (fun _ => yields_some trivial) fun _ => ?_
  refine yields_read (by omega) fun control _ => ?_
  refine yields_skipSpecifier (by decide) fun i hi => ?_
  have hi : i ≤ 264 := hi
  refine yields_skipSpecifier (by omega) fun j hj => ?_
  have hnext : ∀ k, Yields
      (if control &&& 0x80 ≠ 0 then some true
        else if ¬ k + 2 ≤ frame.length then some false
        else frame[k]? >>= fun pdu =>
          if pdu >>> 4 ≠ 1 then some false
          else frame[k + 1]? >>= fun service => some (decide (service = 0 ∨ service = 1)))
      fun _ => True := fun k => by
    refine yields_ite (fun _ => yields_some trivial) fun _ =>
      yields_ite (fun _ => yields_some trivial) fun hroom => ?_
    refine yields_read (by omega) fun _ _ => yields_ite (fun _ => yields_some trivial) fun _ => ?_
    exact yields_read (by omega) fun _ _ => yields_some trivial
  exact hnext _

end Npdu

/-- **The frame decoder never reads outside the datagram.**  For every octet string a datagram can
hold, no read of `DecodeTagHeader`, `DecodeObjectAndProperty`, `DecodeBacnetFrame` or
`IsStackChosenBroadcast` is at or past its length, and the addresses that a decoded frame reports
are slices of it. -/
theorem frame_decoder_stays_inside {frame : List UInt8} (hlen : frame.length ≤ 65535) :
    (∀ offset, decodeTagHeader frame offset ≠ none)
    ∧ (∀ offset d, d.SlicesInside frame → decodeObjectAndProperty frame offset d ≠ none)
    ∧ (∃ d, decodeBacnetFrame frame = some d ∧ d.SlicesInside frame)
    ∧ isStackChosenBroadcast frame ≠ none :=
  ⟨fun offset => (yields_decodeTagHeader hlen offset).ne_none,
    fun offset _ hd => (yields_decodeObjectAndProperty hlen offset hd).ne_none,
    yields_decodeBacnetFrame hlen, (yields_isStackChosenBroadcast hlen).ne_none⟩

/-- A frame whose DLEN points past its end. -/
def frameCutInDadr : List UInt8 := [0x81, 0x0A, 0, 10, 0x01, 0x20, 0x00, 0x05, 0xFF, 0x07]

/-- The cut frame is decoded as far as it goes. -/
theorem frame_decoder_stays_inside_cut :
    (∃ d, decodeBacnetFrame frameCutInDadr = some d ∧ d.SlicesInside frameCutInDadr)
      ∧ (decodeBacnetFrame frameCutInDadr).map (fun d => (d.dnet, d.dadr, d.hasApdu))
        = some (5, none, false)
      ∧ isStackChosenBroadcast frameCutInDadr = some false := by
  have hinside := frame_decoder_stays_inside (show frameCutInDadr.length ≤ 65535 by decide)
  exact ⟨hinside.2.2.1, by decide, by decide⟩

end Controller
