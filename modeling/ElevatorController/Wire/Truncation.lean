import ElevatorController.Wire.Apdu
import ElevatorController.Wire.RoundTrip

/-!
# Wire/Truncation — what a frame cut short reports

    destStart ≤ p.length < end of a part ≤ f.length      announced in p, and read in f only

The decoder sets `hasDest`, `hasSrc` and `isNetworkMessage` from the control octet, before it reads
what they announce; an early return in between leaves a network number, an address or a message
type at its default, and reported.  So a cut frame reports what the whole frame carries exactly when
the parts that the cut takes away have their default values (`cut_frame_carried_iff`).  The APDU's
flags are set with their values.
-/

namespace Controller

open CheckedReads Layout

/-! ## The layout of a cut frame -/

section Cut

variable {p f : List UInt8} (h : p <+: f)
include h

theorem octetAt_of_cut {i : ℕ} (hi : i < p.length) : octetAt p i = octetAt f i := by
  rw [octetAt, octetAt, getElem?_eq_octetAt hi, read_of_cut h (getElem?_eq_octetAt hi)]

theorem wordAt_of_cut {i : ℕ} (hi : i + 2 ≤ p.length) : wordAt p i = wordAt f i := by
  rw [wordAt, wordAt, octetAt_of_cut h (by omega), octetAt_of_cut h (by omega)]

theorem npduStart_of_cut (hp : 2 ≤ p.length) : npduStart p = npduStart f := by
  rw [npduStart, npduStart, octetAt_of_cut h (by omega)]

theorem destStart_of_cut (hp : 2 ≤ p.length) : destStart p = destStart f :=
  congrArg (· + 2) (npduStart_of_cut h hp)

/-- The cut frame has an NPDU where its first two octets are left. -/
theorem hasNpdu_of_cut : HasNpdu p ↔ HasNpdu f ∧ destStart f ≤ p.length := by
  have hle := h.length_le
  constructor
  · rintro ⟨hfour, htype, hfunction, hinside⟩
    rw [octetAt_of_cut h (by omega)] at htype hfunction
    rw [destStart_of_cut h (by omega)] at hinside
    exact ⟨⟨by omega, htype, hfunction, by omega⟩, hinside⟩
  · rintro ⟨⟨hfour, htype, hfunction, -⟩, hinside⟩
    have hsix : 6 ≤ p.length := by
      have hcases := npduStart_cases f
      rw [destStart] at hinside
      omega
    refine ⟨by omega, ?_, ?_, ?_⟩
    · rwa [octetAt_of_cut h (by omega)]
    · rwa [octetAt_of_cut h (by omega)]
    · rwa [destStart_of_cut h (by omega)]

section Npdu

variable (hnpdu : HasNpdu p)
include hnpdu

theorem control_of_cut : control p = control f := by
  have hinside := hnpdu.inside
  have hfour := hnpdu.four
  rw [destStart] at hinside
  rw [Layout.control, octetAt_of_cut h (by omega), npduStart_of_cut h (by omega),
    Layout.control]

theorem hasDest_of_cut : hasDest p = hasDest f := by
  rw [hasDest, control_of_cut h hnpdu, hasDest]

theorem hasSrc_of_cut : hasSrc p = hasSrc f := by
  rw [hasSrc, control_of_cut h hnpdu, hasSrc]

theorem isNetworkMessage_of_cut : isNetworkMessage p = isNetworkMessage f := by
  rw [isNetworkMessage, control_of_cut h hnpdu, isNetworkMessage]

/-- A position after the cut is after it in both frames, and one before it is the same in both. -/
theorem srcStart_of_cut :
    srcStart p = srcStart f ∨ p.length < srcStart p ∧ p.length < srcStart f := by
  have hfour := hnpdu.four
  have hdest : destStart p = destStart f := destStart_of_cut h (by omega)
  rw [srcStart, srcStart, hasDest_of_cut h hnpdu]
  split
  · by_cases hlength : destStart f + 3 ≤ p.length
    · rw [destLength, destLength, hdest, octetAt_of_cut h (by omega)]
      exact Or.inl rfl
    · exact Or.inr ⟨by omega, by omega⟩
  · exact Or.inl hdest

theorem hopStart_of_cut :
    hopStart p = hopStart f ∨ p.length < hopStart p ∧ p.length < hopStart f := by
  rw [hopStart, hopStart, hasSrc_of_cut h hnpdu]
  rcases srcStart_of_cut h hnpdu with hsrc | ⟨hp, hf⟩
  · split
    · by_cases hlength : srcStart f + 3 ≤ p.length
      · rw [srcLength, srcLength, hsrc, octetAt_of_cut h (by omega)]
        exact Or.inl rfl
      · exact Or.inr ⟨by omega, by omega⟩
    · exact Or.inl hsrc
  · refine Or.inr ⟨?_, ?_⟩
    · split <;> omega
    · split <;> omega

theorem payloadStart_of_cut :
    payloadStart p = payloadStart f ∨ p.length < payloadStart p ∧ p.length < payloadStart f := by
  rw [payloadStart, payloadStart, hasDest_of_cut h hnpdu]
  rcases hopStart_of_cut h hnpdu with hhop | ⟨hp, hf⟩
  · rw [hhop]
    exact Or.inl rfl
  · refine Or.inr ⟨?_, ?_⟩
    · split <;> omega
    · split <;> omega

end Npdu

/-! ## What is reported of the header -/

omit h in
/-- A value that is reported where it is inside, and a default where it is not: the cut keeps it
unless it takes away another value than the default. -/
theorem cut_eq_iff {α : Type} {inCut inWhole : Prop} [Decidable inCut] [Decidable inWhole]
    {x y default : α} (hinside : inCut → inWhole) (heq : inCut → x = y) :
    (if inCut then x else default) = (if inWhole then y else default)
      ↔ (¬ inCut → inWhole → y = default) := by
  by_cases hcut : inCut
  · rw [if_pos hcut, if_pos (hinside hcut), heq hcut]
    exact ⟨fun _ hout => absurd hcut hout, fun _ => rfl⟩
  · rw [if_neg hcut]
    split
    · rename_i hwhole
      exact ⟨fun h _ _ => h.symm, fun h => (h hcut hwhole).symm⟩
    · rename_i hwhole
      exact ⟨fun _ _ h => absurd h hwhole, fun _ => rfl⟩

/-- The network number and the address at a specifier, as far as the frame goes. -/
def reportedSpecifier (frame : List UInt8) (start : ℕ) : ℕ × List UInt8 :=
  let length := (octetAt frame (start + 2)).toNat
  (if start + 3 ≤ frame.length then wordAt frame start else 0,
    if start + 3 + length ≤ frame.length then (frame.drop (start + 3)).take length else [])

omit h in
theorem addressOctets_reportedAddress (frame : List UInt8) (start length : ℕ) :
    addressOctets frame (reportedAddress start length) length = (frame.drop start).take length := by
  rw [reportedAddress]
  split
  · rfl
  · rename_i hzero
    rw [Nat.eq_zero_of_not_pos hzero]
    rfl

omit h in
/-- The fields of a specifier that ends at `stop`. -/
theorem specifierFields_eq {frame : List UInt8} {start stop : ℕ}
    (hstop : stop = start + 3 + (octetAt frame (start + 2)).toNat) :
    (if start + 3 ≤ frame.length then wordAt frame start else 0,
      addressOctets frame
        (if stop ≤ frame.length then reportedAddress (start + 3) (octetAt frame (start + 2)).toNat
          else none)
        (if stop ≤ frame.length then (octetAt frame (start + 2)).toNat else 0))
      = reportedSpecifier frame start := by
  rw [reportedSpecifier, ← hstop]
  by_cases hinside : stop ≤ frame.length
  · rw [if_pos hinside, if_pos hinside, if_pos hinside, addressOctets_reportedAddress]
  · rw [if_neg hinside, if_neg hinside, if_neg hinside, addressOctets]

omit h in
theorem dest_reportedHeader (frame : List UInt8) : (reportedHeader frame).dest frame
    = if hasDest frame then some (reportedSpecifier frame (destStart frame)) else none := by
  rw [DecodedFrame.dest, show (reportedHeader frame).hasDest = hasDest frame from rfl]
  by_cases hdest : hasDest frame = true
  · have hstop := srcStart_of_hasDest frame hdest
    rw [if_pos hdest, if_pos hdest, ← specifierFields_eq hstop]
    simp only [reportedHeader, reportedSrc, reportedDest, hdest, true_and, destLength]
  · rw [if_neg hdest, if_neg hdest]

omit h in
theorem src_reportedHeader (frame : List UInt8) : (reportedHeader frame).src frame
    = if hasSrc frame then some (reportedSpecifier frame (srcStart frame)) else none := by
  rw [DecodedFrame.src, show (reportedHeader frame).hasSrc = hasSrc frame from rfl]
  by_cases hsrc : hasSrc frame = true
  · have hstop := hopStart_of_hasSrc frame hsrc
    rw [if_pos hsrc, if_pos hsrc, ← specifierFields_eq hstop]
    simp only [reportedHeader, reportedSrc, hsrc, true_and, srcLength]
  · rw [if_neg hsrc, if_neg hsrc]

/-- **The specifier of a cut frame** is that of the whole, unless the cut takes away a network
number that is not 0 or an address that is not empty. -/
theorem reportedSpecifier_of_cut (start : ℕ) :
    reportedSpecifier p start = reportedSpecifier f start
      ↔ (p.length < start + 3 → start + 3 ≤ f.length → wordAt f start = 0)
        ∧ (p.length < start + 3 + (octetAt f (start + 2)).toNat →
            start + 3 + (octetAt f (start + 2)).toNat ≤ f.length →
            (octetAt f (start + 2)).toNat = 0) := by
  have hle := h.length_le
  have hlength : start + 3 ≤ p.length → octetAt p (start + 2) = octetAt f (start + 2) :=
    fun hleft => octetAt_of_cut h (by omega)
  have hleft : start + 3 + (octetAt p (start + 2)).toNat ≤ p.length
      ↔ start + 3 + (octetAt f (start + 2)).toNat ≤ p.length := by
    by_cases hthree : start + 3 ≤ p.length
    · rw [hlength hthree]
    · omega
  rw [reportedSpecifier, reportedSpecifier, Prod.mk.injEq]
  refine and_congr ?_ ?_
  · rw [cut_eq_iff (fun hcut => hcut.trans hle) fun hcut => wordAt_of_cut h (by omega), not_le]
  · rw [cut_eq_iff (fun hcut => (hleft.mp hcut).trans hle), not_congr hleft, not_le]
    · refine forall_congr' fun _ => forall_congr' fun hwhole => ?_
      rw [← List.length_eq_zero_iff, List.length_take, List.length_drop]
      omega
    · intro hcut
      rw [hlength (by omega)] at hcut ⊢
      obtain ⟨rest, rfl⟩ := h
      rw [List.drop_append_of_le_length (by omega),
        List.take_append_of_le_length (by rw [List.length_drop]; omega)]

omit h in
theorem reportedSpecifier_of_lt {frame : List UInt8} {start : ℕ} (hlt : frame.length < start) :
    reportedSpecifier frame start = (0, []) := by
  rw [reportedSpecifier, if_neg (by omega), if_neg (by omega)]

/-! Each part is the same where all of it is left. -/

theorem reportedControl_of_cut (hnpdu : HasNpdu p) : reportedControl p = reportedControl f := by
  have hinside := hnpdu.inside
  have hfour := hnpdu.four
  have hstart : npduStart p = npduStart f := npduStart_of_cut h (by omega)
  rw [destStart, hstart] at hinside
  rw [reportedControl, reportedControl, control_of_cut h hnpdu, hasDest_of_cut h hnpdu,
    hasSrc_of_cut h hnpdu, isNetworkMessage_of_cut h hnpdu, hstart, octetAt_of_cut h (by omega),
    octetAt_of_cut h (by omega)]

theorem reportedDest_of_cut (hnpdu : HasNpdu p) (hleft : srcStart f ≤ p.length) :
    reportedDest p = reportedDest f := by
  have hle := h.length_le
  have hfour := hnpdu.four
  have hdestStart : destStart p = destStart f := destStart_of_cut h (by omega)
  have hsrcStart : srcStart p = srcStart f :=
    (srcStart_of_cut h hnpdu).resolve_right fun hlt => by omega
  funext d
  rw [reportedDest, reportedDest, hasDest_of_cut h hnpdu, hdestStart, hsrcStart]
  by_cases hpresent : hasDest f = true
  · have hstop := srcStart_of_hasDest f hpresent
    have hlength : destLength p = destLength f := by
      rw [destLength, hdestStart, octetAt_of_cut h (by omega), destLength]
    rw [hlength, wordAt_of_cut h (by omega)]
    simp only [show destStart f + 3 ≤ p.length by omega, show srcStart f ≤ p.length by omega,
      show destStart f + 3 ≤ f.length by omega, show srcStart f ≤ f.length by omega]
  · simp only [hpresent, Bool.false_eq_true, false_and, if_false]

theorem reportedSrc_of_cut (hnpdu : HasNpdu p) (hleft : hopStart f ≤ p.length) :
    reportedSrc p = reportedSrc f := by
  have hle := h.length_le
  have hsrcHop := srcStart_le_hopStart f
  have hsrcStart : srcStart p = srcStart f :=
    (srcStart_of_cut h hnpdu).resolve_right fun hlt => by omega
  have hhopStart : hopStart p = hopStart f :=
    (hopStart_of_cut h hnpdu).resolve_right fun hlt => by omega
  funext d
  rw [reportedSrc, reportedSrc, hasSrc_of_cut h hnpdu, hsrcStart, hhopStart]
  by_cases hpresent : hasSrc f = true
  · have hstop := hopStart_of_hasSrc f hpresent
    have hlength : srcLength p = srcLength f := by
      rw [srcLength, hsrcStart, octetAt_of_cut h (by omega), srcLength]
    rw [hlength, wordAt_of_cut h (by omega)]
    simp only [show srcStart f + 3 ≤ p.length by omega, show hopStart f ≤ p.length by omega,
      show srcStart f + 3 ≤ f.length by omega, show hopStart f ≤ f.length by omega]
  · simp only [hpresent, Bool.false_eq_true, false_and, if_false]

theorem reportedHeader_of_cut (hnpdu : HasNpdu p) (hleft : payloadStart f ≤ p.length) :
    reportedHeader p = reportedHeader f := by
  have hsrcHop := srcStart_le_hopStart f
  have hhopPayload := hopStart_le_payloadStart f
  rw [reportedHeader, reportedControl_of_cut h hnpdu, reportedDest_of_cut h hnpdu (by omega),
    reportedSrc_of_cut h hnpdu (by omega), reportedHeader]

end Cut

/-! ## Everything that is reported -/

/-- NPDU version and control. -/
def DecodedFrame.npdu (d : DecodedFrame) : Option (UInt8 × UInt8) :=
  if d.hasNpdu then some (d.npduVersion, d.npduControl) else none

/-- Every item that is reported as present of the one frame is reported of the other, with the same
value. -/
structure DecodedFrame.ReportCarried (p : List UInt8) (d : DecodedFrame) (f : List UInt8)
    (e : DecodedFrame) : Prop where
  npdu : ∀ x ∈ d.npdu, x ∈ e.npdu
  dest : ∀ x ∈ d.dest p, x ∈ e.dest f
  src : ∀ x ∈ d.src p, x ∈ e.src f
  networkMessage : ∀ x ∈ d.networkMessage, x ∈ e.networkMessage
  apdu : d.ApduCarried e

/-- A cut after `n` octets takes away only default values: where the end of a part is lost, its
value in the frame is 0, or empty. -/
structure CutHarmless (f : List UInt8) (n : ℕ) : Prop where
  dnet : hasDest f → n < destStart f + 3 → destStart f + 3 ≤ f.length →
    wordAt f (destStart f) = 0
  dadr : hasDest f → n < srcStart f → srcStart f ≤ f.length → destLength f = 0
  snet : hasSrc f → n < srcStart f + 3 → srcStart f + 3 ≤ f.length → wordAt f (srcStart f) = 0
  sadr : hasSrc f → n < hopStart f → hopStart f ≤ f.length → srcLength f = 0
  message : isNetworkMessage f → n ≤ payloadStart f → payloadStart f < f.length →
    octetAt f (payloadStart f) = 0

theorem mem_ite_some_iff {α : Type} {c : Prop} [Decidable c] {a b : α} :
    (∀ x ∈ if c then some a else none, x ∈ if c then some b else none) ↔ (c → a = b) := by
  split
  · rename_i hc
    exact ⟨fun h _ => (Option.some.inj (h a rfl)).symm, fun h x hx => by rw [← h hc]; exact hx⟩
  · rename_i hc
    exact ⟨fun _ h => absurd h hc, fun _ x hx => hx⟩

section Report

variable {p f : List UInt8} {d e : DecodedFrame} (h : p <+: f) (hnpdu : HasNpdu p)
  (hd : reportedPayload p (reportedHeader p) = some d)
  (he : reportedPayload f (reportedHeader f) = some e)
include h hnpdu hd he

theorem npdu_carried : ∀ x ∈ d.npdu, x ∈ e.npdu := by
  have hinside := hnpdu.inside
  have hfour := hnpdu.four
  rw [destStart] at hinside
  have hheader : (reportedHeader p).npdu = (reportedHeader f).npdu := by
    refine congrArg some (Prod.ext ?_ (control_of_cut h hnpdu))
    have hstart : npduStart p = npduStart f := npduStart_of_cut h (by omega)
    change octetAt p (npduStart p) = octetAt f (npduStart f)
    rw [← hstart, octetAt_of_cut h (by omega)]
  have hp : d.npdu = (reportedHeader p).npdu :=
    (congrArg DecodedFrame.npdu (beforeApdu_reportedPayload hd) :)
  have hf : e.npdu = (reportedHeader f).npdu :=
    (congrArg DecodedFrame.npdu (beforeApdu_reportedPayload he) :)
  rw [hp, hf, hheader]
  exact fun _ hx => hx

theorem dest_carried_iff : (∀ x ∈ d.dest p, x ∈ e.dest f)
    ↔ (hasDest f → reportedSpecifier p (destStart f) = reportedSpecifier f (destStart f)) := by
  have hfour := hnpdu.four
  have hp : d.dest p = (reportedHeader p).dest p :=
    (congrArg (DecodedFrame.dest p) (beforeApdu_reportedPayload hd) :)
  have hf : e.dest f = (reportedHeader f).dest f :=
    (congrArg (DecodedFrame.dest f) (beforeApdu_reportedPayload he) :)
  rw [hp, hf, dest_reportedHeader, dest_reportedHeader, hasDest_of_cut h hnpdu,
    destStart_of_cut h (by omega)]
  exact mem_ite_some_iff

theorem src_carried_iff : (∀ x ∈ d.src p, x ∈ e.src f)
    ↔ (hasSrc f → reportedSpecifier p (srcStart f) = reportedSpecifier f (srcStart f)) := by
  have hstart : reportedSpecifier p (srcStart p) = reportedSpecifier p (srcStart f) := by
    rcases srcStart_of_cut h hnpdu with heq | ⟨hp, hf⟩
    · rw [heq]
    · rw [reportedSpecifier_of_lt hp, reportedSpecifier_of_lt hf]
  have hp : d.src p = (reportedHeader p).src p :=
    (congrArg (DecodedFrame.src p) (beforeApdu_reportedPayload hd) :)
  have hf : e.src f = (reportedHeader f).src f :=
    (congrArg (DecodedFrame.src f) (beforeApdu_reportedPayload he) :)
  rw [hp, hf, src_reportedHeader, src_reportedHeader, hasSrc_of_cut h hnpdu, hstart]
  exact mem_ite_some_iff

theorem networkMessage_carried_iff : (∀ x ∈ d.networkMessage, x ∈ e.networkMessage)
    ↔ (isNetworkMessage f → p.length ≤ payloadStart f → payloadStart f < f.length →
        octetAt f (payloadStart f) = 0) := by
  have hle := h.length_le
  have hnet := isNetworkMessage_of_cut h hnpdu
  have hp : d.networkMessage
      = if isNetworkMessage p then some (reportedMessageType p).toNat else none :=
    (congrArg DecodedFrame.networkMessage (beforeApdu_reportedPayload hd) :)
  have hf : e.networkMessage
      = if isNetworkMessage f then some (reportedMessageType f).toNat else none :=
    (congrArg DecodedFrame.networkMessage (beforeApdu_reportedPayload he) :)
  rw [hp, hf, hnet, mem_ite_some_iff, UInt8.toNat_inj, reportedMessageType, reportedMessageType,
    hnet]
  refine forall_congr' fun hmessage => ?_
  simp only [hmessage, true_and]
  have hleft : payloadStart p < p.length ↔ payloadStart f < p.length := by
    rcases payloadStart_of_cut h hnpdu with heq | ⟨hp, hf⟩
    · rw [heq]
    · omega
  have hoctet : payloadStart p < p.length →
      octetAt p (payloadStart p) = octetAt f (payloadStart f) := fun hcut => by
    rcases payloadStart_of_cut h hnpdu with heq | ⟨hp, -⟩
    · rw [heq, octetAt_of_cut h (hleft.mp hcut)]
    · omega
  rw [cut_eq_iff (fun hcut => (hleft.mp hcut).trans_le hle) hoctet, not_congr hleft, not_lt]

theorem apdu_carried : d.ApduCarried e := by
  rw [reportedPayload] at hd
  split at hd
  · rename_i hleft
    have hpayload : payloadStart p = payloadStart f := by
      rcases payloadStart_of_cut h hnpdu with heq | ⟨hp, -⟩
      · exact heq
      · omega
    split at hd
    · obtain rfl := Option.some.inj hd
      exact DecodedFrame.NoApdu.carried ⟨rfl, rfl, rfl, rfl, rfl, rfl⟩ e
    · rename_i hnet
      rw [isNetworkMessage_of_cut h hnpdu] at hnet
      rw [hpayload] at hleft hd
      rw [reportedHeader_of_cut h hnpdu hleft.le] at hd
      rw [reportedPayload, if_pos (hleft.trans_le h.length_le), if_neg hnet] at he
      exact (decodeApdu_of_cut h (noApdu_reportedHeader f) hd he).toApduCarried
  · obtain rfl := Option.some.inj hd
    exact (noApdu_reportedHeader p).carried e

end Report

/-- The five conditions are those of the items of the header; the APDU needs none. -/
theorem reportCarried_iff {p f : List UInt8} {d e : DecodedFrame} (h : p <+: f) (hnpdu : HasNpdu p)
    (hd : reportedPayload p (reportedHeader p) = some d)
    (he : reportedPayload f (reportedHeader f) = some e) :
    d.ReportCarried p f e ↔ CutHarmless f p.length := by
  have hdest : (∀ x ∈ d.dest p, x ∈ e.dest f) ↔ (hasDest f →
      (p.length < destStart f + 3 → destStart f + 3 ≤ f.length → wordAt f (destStart f) = 0)
        ∧ (p.length < srcStart f → srcStart f ≤ f.length → destLength f = 0)) := by
    rw [dest_carried_iff h hnpdu hd he]
    refine forall_congr' fun hpresent => ?_
    have hstop := srcStart_of_hasDest f hpresent
    rw [reportedSpecifier_of_cut h, hstop, destLength]
  have hsrc : (∀ x ∈ d.src p, x ∈ e.src f) ↔ (hasSrc f →
      (p.length < srcStart f + 3 → srcStart f + 3 ≤ f.length → wordAt f (srcStart f) = 0)
        ∧ (p.length < hopStart f → hopStart f ≤ f.length → srcLength f = 0)) := by
    rw [src_carried_iff h hnpdu hd he]
    refine forall_congr' fun hpresent => ?_
    have hstop := hopStart_of_hasSrc f hpresent
    rw [reportedSpecifier_of_cut h, hstop, srcLength]
  have hmessage := networkMessage_carried_iff h hnpdu hd he
  constructor
  · intro hcarried
    have hdest := hdest.mp hcarried.dest
    have hsrc := hsrc.mp hcarried.src
    exact ⟨fun hp => (hdest hp).1, fun hp => (hdest hp).2, fun hp => (hsrc hp).1,
      fun hp => (hsrc hp).2, hmessage.mp hcarried.networkMessage⟩
  · intro hcut
    exact ⟨npdu_carried h hnpdu hd he, hdest.mpr fun hp => ⟨hcut.dnet hp, hcut.dadr hp⟩,
      hsrc.mpr fun hp => ⟨hcut.snet hp, hcut.sadr hp⟩, hmessage.mpr hcut.message,
      apdu_carried h hnpdu hd he⟩

/-- A frame that reports nothing but its BVLC function. -/
theorem reportCarried_of_bvlc (p f : List UInt8) (bacnetIp : Bool) (bvlcFunction : UInt8)
    (e : DecodedFrame) : DecodedFrame.ReportCarried p { bacnetIp, bvlcFunction } f e where
  npdu := nofun
  dest := nofun
  src := nofun
  networkMessage := nofun
  apdu := DecodedFrame.NoApdu.carried ⟨rfl, rfl, rfl, rfl, rfl, rfl⟩ e

/-- **A cut frame reports what the whole frame carries, exactly when the cut is harmless.**  Both
frames are decoded, and every item reported of the cut one is reported of the whole with the same
value, if and only if each part that its control octet announces and the cut takes away has its
default value.  A cut before the control octet leaves nothing to report. -/
theorem cut_frame_carried_iff {p f : List UInt8} (hlen : f.length ≤ 65535) (h : p <+: f) :
    ∃ d e, decodeBacnetFrame p = some d ∧ decodeBacnetFrame f = some e
      ∧ (d.ReportCarried p f e
        ↔ (HasNpdu f → destStart f ≤ p.length → CutHarmless f p.length)) := by
  have hplen : p.length ≤ 65535 := h.length_le.trans hlen
  obtain ⟨d, hd, -⟩ := yields_decodeBacnetFrame hplen
  obtain ⟨e, he, -⟩ := yields_decodeBacnetFrame hlen
  refine ⟨d, e, hd, he, ?_⟩
  by_cases hnpdu : HasNpdu p
  · obtain ⟨hf, hinside⟩ := (hasNpdu_of_cut h).mp hnpdu
    rw [decodeBacnetFrame_eq hplen hnpdu] at hd
    rw [decodeBacnetFrame_eq hlen hf] at he
    rw [reportCarried_iff h hnpdu hd he]
    exact ⟨fun hcut _ _ => hcut, fun hcut => hcut hf hinside⟩
  · obtain ⟨bacnetIp, bvlcFunction, hbvlc⟩ := decodeBacnetFrame_of_not_hasNpdu hnpdu
    obtain rfl := Option.some.inj (hd.symm.trans hbvlc)
    exact ⟨fun _ hf hinside => absurd ((hasNpdu_of_cut h).mpr ⟨hf, hinside⟩) hnpdu,
      fun _ => reportCarried_of_bvlc p f bacnetIp bvlcFunction e⟩

/-- A What-Is-Network-Number, cut after its control octet. -/
def cutNetworkMessage : List UInt8 := [0x81, 0x0A, 0x00, 0x07, 0x01, 0x80]

/-- The cut frame of a whole one. -/
theorem cut_frame_carried_networkMessage :
    ∃ d e, decodeBacnetFrame cutNetworkMessage = some d
      ∧ decodeBacnetFrame (cutNetworkMessage ++ [0x12]) = some e
      ∧ (d.ReportCarried cutNetworkMessage (cutNetworkMessage ++ [0x12]) e
        ↔ (HasNpdu (cutNetworkMessage ++ [0x12]) →
          destStart (cutNetworkMessage ++ [0x12]) ≤ cutNetworkMessage.length →
          CutHarmless (cutNetworkMessage ++ [0x12]) cutNetworkMessage.length)) :=
  cut_frame_carried_iff (by decide) (List.prefix_append _ _)

/-- **The default message type is reported**: the cut frame is decoded as a
Who-Is-Router-To-Network, which the whole frame is not. -/
theorem cut_network_message_misparsed : ∃ p f d e, p <+: f ∧ f.length ≤ 65535
    ∧ decodeBacnetFrame p = some d ∧ decodeBacnetFrame f = some e
    ∧ d.networkMessage = some 0 ∧ e.networkMessage = some 0x12 ∧ ¬ d.ReportCarried p f e := by
  refine ⟨cutNetworkMessage, cutNetworkMessage ++ [0x12], _, _, List.prefix_append _ _, by decide,
    rfl, rfl, rfl, rfl, fun hcarried => ?_⟩
  exact absurd (hcarried.networkMessage 0 rfl) (by decide)

end Controller
