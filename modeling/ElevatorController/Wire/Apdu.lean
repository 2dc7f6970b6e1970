import ElevatorController.Wire.Layout

/-!
# Wire/Apdu — the APDU decoder only adds, and adds the same to less

An early return keeps what is decoded so far.  So what the decoder leaves always extends what it was
given (`extends_decodeApdu`); and of a frame cut short it leaves what it would of the whole, or an
earlier stage of that (`decodeApdu_of_cut`): each function either sees the same octets as in the
whole frame, or returns where it stands.
-/

namespace Controller

namespace DecodedFrame

/-! ## What is reported as present -/

def reportedPduType (d : DecodedFrame) : Option ℕ := if d.hasApdu then some d.pduType else none

def reportedInvokeId (d : DecodedFrame) : Option UInt8 :=
  if d.hasInvokeId then some d.invokeId else none

def reportedService (d : DecodedFrame) : Option UInt8 :=
  if d.hasServiceChoice then some d.serviceChoice else none

def reportedReason (d : DecodedFrame) : Option UInt8 := if d.hasReason then some d.reason else none

/-- Object type, instance and property. -/
def reportedProperty (d : DecodedFrame) : Option (ℕ × ℕ × ℕ) :=
  if d.hasObjectProperty then some (d.objectType, d.objectInstance, d.propertyId) else none

def reportedIndex (d : DecodedFrame) : Option ℕ :=
  if d.hasArrayIndex then some d.arrayIndex else none

/-- What is decoded before the APDU. -/
def beforeApdu (d : DecodedFrame) : DecodedFrame :=
  { d with
    hasApdu := false
    pduType := 0xFF
    segmented := false
    hasInvokeId := false
    invokeId := 0
    hasServiceChoice := false
    serviceChoice := 0
    hasReason := false
    reason := 0
    hasObjectProperty := false
    objectType := 0
    objectInstance := 0
    propertyId := 0
    hasArrayIndex := false
    arrayIndex := 0 }

/-- Everything the first frame reports of the APDU, the second does. -/
structure ApduCarried (d e : DecodedFrame) : Prop where
  pduType : ∀ x ∈ d.reportedPduType, x ∈ e.reportedPduType
  invokeId : ∀ x ∈ d.reportedInvokeId, x ∈ e.reportedInvokeId
  service : ∀ x ∈ d.reportedService, x ∈ e.reportedService
  reason : ∀ x ∈ d.reportedReason, x ∈ e.reportedReason
  property : ∀ x ∈ d.reportedProperty, x ∈ e.reportedProperty
  index : ∀ x ∈ d.reportedIndex, x ∈ e.reportedIndex

/-- …and before the APDU they agree. -/
structure Extends (d e : DecodedFrame) : Prop extends ApduCarried d e where
  before : e.beforeApdu = d.beforeApdu

variable {d e c : DecodedFrame}

theorem Extends.refl (d : DecodedFrame) : d.Extends d where
  before := rfl
  pduType _ h := h
  invokeId _ h := h
  service _ h := h
  reason _ h := h
  property _ h := h
  index _ h := h

theorem Extends.trans (h : d.Extends e) (h' : e.Extends c) : d.Extends c where
  before := h'.before.trans h.before
  pduType x hx := h'.pduType x (h.pduType x hx)
  invokeId x hx := h'.invokeId x (h.invokeId x hx)
  service x hx := h'.service x (h.service x hx)
  reason x hx := h'.reason x (h.reason x hx)
  property x hx := h'.property x (h.property x hx)
  index x hx := h'.index x (h.index x hx)

theorem mem_ite_none_of_false {α : Type} {flag : Bool} (h : flag = false) {a x : α}
    {P : Prop} (hx : x ∈ if flag then some a else none) : P := by
  rw [h] at hx
  cases hx

/-- A PropertyArrayIndex is added. -/
theorem extends_index (h : d.hasArrayIndex = false) (v : ℕ) :
    d.Extends { d with hasArrayIndex := true, arrayIndex := v } where
  before := rfl
  pduType _ hx := hx
  invokeId _ hx := hx
  service _ hx := hx
  reason _ hx := hx
  property _ hx := hx
  index _ hx := mem_ite_none_of_false h hx

/-- A property is added. -/
theorem extends_property (h : d.hasObjectProperty = false)
    (objectType objectInstance propertyId : ℕ) :
    d.Extends { d with hasObjectProperty := true, objectType, objectInstance, propertyId } where
  before := rfl
  pduType _ hx := hx
  invokeId _ hx := hx
  service _ hx := hx
  reason _ hx := hx
  property _ hx := mem_ite_none_of_false h hx
  index _ hx := hx

/-- A service choice is added. -/
theorem extends_service (h : d.hasServiceChoice = false) (serviceChoice : UInt8) :
    d.Extends { d with hasServiceChoice := true, serviceChoice } where
  before := rfl
  pduType _ hx := hx
  invokeId _ hx := hx
  service _ hx := mem_ite_none_of_false h hx
  reason _ hx := hx
  property _ hx := hx
  index _ hx := hx

/-- A reason is added. -/
theorem extends_reason (h : d.hasReason = false) (reason : UInt8) :
    d.Extends { d with hasReason := true, reason } where
  before := rfl
  pduType _ hx := hx
  invokeId _ hx := hx
  service _ hx := hx
  reason _ hx := mem_ite_none_of_false h hx
  property _ hx := hx
  index _ hx := hx

/-- An invoke id is added. -/
theorem extends_invokeId (h : d.hasInvokeId = false) (invokeId : UInt8) :
    d.Extends { d with hasInvokeId := true, invokeId } where
  before := rfl
  pduType _ hx := hx
  invokeId _ hx := mem_ite_none_of_false h hx
  service _ hx := hx
  reason _ hx := hx
  property _ hx := hx
  index _ hx := hx

/-- The first octet of the APDU. -/
def withPdu (d : DecodedFrame) (pduType : ℕ) (segmented : Bool) : DecodedFrame :=
  { d with hasApdu := true, pduType, segmented }

theorem extends_withPdu (h : d.hasApdu = false) (pduType : ℕ) (segmented : Bool) :
    d.Extends (d.withPdu pduType segmented) where
  before := rfl
  pduType _ hx := mem_ite_none_of_false h hx
  invokeId _ hx := hx
  service _ hx := hx
  reason _ hx := hx
  property _ hx := hx
  index _ hx := hx

/-- Nothing of an APDU is reported. -/
structure NoApdu (d : DecodedFrame) : Prop where
  hasApdu : d.hasApdu = false
  hasInvokeId : d.hasInvokeId = false
  hasServiceChoice : d.hasServiceChoice = false
  hasReason : d.hasReason = false
  hasObjectProperty : d.hasObjectProperty = false
  hasArrayIndex : d.hasArrayIndex = false

theorem NoApdu.carried (h : d.NoApdu) (e : DecodedFrame) : d.ApduCarried e where
  pduType _ hx := mem_ite_none_of_false h.hasApdu hx
  invokeId _ hx := mem_ite_none_of_false h.hasInvokeId hx
  service _ hx := mem_ite_none_of_false h.hasServiceChoice hx
  reason _ hx := mem_ite_none_of_false h.hasReason hx
  property _ hx := mem_ite_none_of_false h.hasObjectProperty hx
  index _ hx := mem_ite_none_of_false h.hasArrayIndex hx

end DecodedFrame

open DecodedFrame

/-! ## The decoder only adds -/

section Adds

variable {frame : List UInt8} {d e : DecodedFrame} {pos : ℕ}

theorem extends_decodeArrayIndex (hd : d.hasArrayIndex = false)
    (h : decodeArrayIndex frame pos d = some e) : d.Extends e := by
  simp only [decodeArrayIndex, Option.bind_eq_bind, Option.bind_eq_some_iff] at h
  obtain ⟨r, -, h⟩ := h
  cases r with
  | none =>
    obtain rfl := Option.some.inj h
    exact .refl _
  | some tag =>
    dsimp only at h
    split at h
    · obtain ⟨v, -, h⟩ := Option.bind_eq_some_iff.mp h
      obtain rfl := Option.some.inj h
      exact extends_index hd v
    · obtain rfl := Option.some.inj h
      exact .refl _

theorem extends_decodeProperty {objValue : ℕ} (hd : d.hasObjectProperty = false)
    (hindex : d.hasArrayIndex = false) (h : decodeProperty frame pos objValue d = some e) :
    d.Extends e := by
  simp only [decodeProperty, Option.bind_eq_bind, Option.bind_eq_some_iff] at h
  obtain ⟨r, -, h⟩ := h
  cases r with
  | none =>
    obtain rfl := Option.some.inj h
    exact .refl _
  | some tag =>
    dsimp only at h
    split at h
    · obtain rfl := Option.some.inj h
      exact .refl _
    · obtain ⟨v, -, h⟩ := Option.bind_eq_some_iff.mp h
      exact (extends_property hd _ _ v).trans (extends_decodeArrayIndex hindex h)

theorem extends_decodeObjectAndProperty (hd : d.hasObjectProperty = false)
    (hindex : d.hasArrayIndex = false) (h : decodeObjectAndProperty frame pos d = some e) :
    d.Extends e := by
  simp only [decodeObjectAndProperty, Option.bind_eq_bind, Option.bind_eq_some_iff] at h
  obtain ⟨r, -, h⟩ := h
  cases r with
  | none =>
    obtain rfl := Option.some.inj h
    exact .refl _
  | some tag =>
    dsimp only at h
    split at h
    · obtain rfl := Option.some.inj h
      exact .refl _
    · simp only [Option.bind_eq_some_iff] at h
      obtain ⟨o0, -, o1, -, o2, -, o3, -, h⟩ := h
      exact extends_decodeProperty hd hindex h

theorem extends_decodeService {services : List UInt8} (hservice : d.hasServiceChoice = false)
    (hd : d.hasObjectProperty = false) (hindex : d.hasArrayIndex = false)
    (h : decodeService frame pos services d = some e) : d.Extends e := by
  rw [decodeService] at h
  split at h
  · obtain rfl := Option.some.inj h
    exact .refl _
  · simp only [Option.bind_eq_bind, Option.bind_eq_some_iff] at h
    obtain ⟨serviceChoice, -, h⟩ := h
    split at h
    · exact (extends_service hservice serviceChoice).trans
        (extends_decodeObjectAndProperty hd hindex h)
    · obtain rfl := Option.some.inj h
      exact extends_service hservice serviceChoice

end Adds

/-! ## The branches of the APDU -/

/-- Confirmed-Request and ComplexACK: an invoke id, and the service where there is one. -/
def decodeInvoked (frame : List UInt8) (invokeOffset serviceOffset : ℕ) (services : List UInt8)
    (d : DecodedFrame) : Option DecodedFrame :=
  if invokeOffset ≥ frame.length then some d
  else do
    let invokeId ← frame[invokeOffset]?
    decodeService frame serviceOffset services { d with hasInvokeId := true, invokeId }

/-- SimpleACK and Error, Reject and Abort: two octets, both or neither. -/
def decodePair (frame : List UInt8) (offset : ℕ) (set : DecodedFrame → UInt8 → UInt8 → DecodedFrame)
    (d : DecodedFrame) : Option DecodedFrame :=
  if u32 (offset + 2) ≥ frame.length then some d
  else do
    let invokeId ← frame[u32 (offset + 1)]?
    let octet ← frame[u32 (offset + 2)]?
    some (set d invokeId octet)

def DecodedFrame.setService (d : DecodedFrame) (invokeId serviceChoice : UInt8) : DecodedFrame :=
  { d with hasInvokeId := true, invokeId, hasServiceChoice := true, serviceChoice }

def DecodedFrame.setReason (d : DecodedFrame) (invokeId reason : UInt8) : DecodedFrame :=
  { d with hasInvokeId := true, invokeId, hasReason := true, reason }

/-- The APDU after its first octet. -/
def decodeRest (frame : List UInt8) (offset : ℕ) (b0 : UInt8) (d : DecodedFrame) :
    Option DecodedFrame :=
  let pduType := ((b0 >>> 4) &&& 0x0F).toNat
  let segmented := b0 &&& 0x08 != 0
  match pduType with
  | 0 => decodeInvoked frame (u32 (offset + 2)) (u32 (offset + if segmented then 5 else 3)) [12, 15]
      (d.withPdu pduType segmented)
  | 1 => decodeService frame (u32 (offset + 1)) [] (d.withPdu pduType d.segmented)
  | 3 => decodeInvoked frame (u32 (offset + 1)) (u32 (offset + if segmented then 4 else 2)) [12]
      (d.withPdu pduType segmented)
  | 2 | 5 => decodePair frame offset .setService (d.withPdu pduType d.segmented)
  | 6 | 7 => decodePair frame offset .setReason (d.withPdu pduType d.segmented)
  | _ => some (d.withPdu pduType d.segmented)

theorem decodeApdu_eq (frame : List UInt8) (offset : ℕ) (d : DecodedFrame) :
    decodeApdu frame offset d = frame[offset]? >>= fun b0 => decodeRest frame offset b0 d := by
  rw [decodeApdu]
  refine congrArg (frame[offset]? >>= ·) (funext fun b0 => ?_)
  rw [decodeRest]
  generalize ((b0 >>> 4) &&& 0x0F).toNat = pduType
  rcases pduType with _ | _ | _ | _ | _ | _ | _ | _ | _ <;> rfl

section Adds

variable {frame : List UInt8} {d e : DecodedFrame}

theorem extends_setService (hinvoke : d.hasInvokeId = false) (hservice : d.hasServiceChoice = false)
    (invokeId serviceChoice : UInt8) : d.Extends (d.setService invokeId serviceChoice) :=
  (extends_invokeId hinvoke invokeId).trans
    (extends_service (d := { d with hasInvokeId := true, invokeId }) hservice serviceChoice)

theorem extends_setReason (hinvoke : d.hasInvokeId = false) (hreason : d.hasReason = false)
    (invokeId reason : UInt8) : d.Extends (d.setReason invokeId reason) :=
  (extends_invokeId hinvoke invokeId).trans
    (extends_reason (d := { d with hasInvokeId := true, invokeId }) hreason reason)

theorem extends_decodeInvoked {invokeOffset serviceOffset : ℕ} {services : List UInt8}
    (hinvoke : d.hasInvokeId = false) (hservice : d.hasServiceChoice = false)
    (hproperty : d.hasObjectProperty = false) (hindex : d.hasArrayIndex = false)
    (h : decodeInvoked frame invokeOffset serviceOffset services d = some e) : d.Extends e := by
  rw [decodeInvoked] at h
  split at h
  · obtain rfl := Option.some.inj h
    exact .refl _
  · obtain ⟨invokeId, -, h⟩ := Option.bind_eq_some_iff.mp h
    exact (extends_invokeId hinvoke invokeId).trans
      (extends_decodeService hservice hproperty hindex h)

theorem extends_decodePair {offset : ℕ} {set : DecodedFrame → UInt8 → UInt8 → DecodedFrame}
    (hset : ∀ invokeId octet, d.Extends (set d invokeId octet))
    (h : decodePair frame offset set d = some e) : d.Extends e := by
  rw [decodePair] at h
  split at h
  · obtain rfl := Option.some.inj h
    exact .refl _
  · obtain ⟨invokeId, -, h⟩ := Option.bind_eq_some_iff.mp h
    obtain ⟨octet, -, h⟩ := Option.bind_eq_some_iff.mp h
    obtain rfl := Option.some.inj h
    exact hset invokeId octet

theorem extends_decodeRest {offset : ℕ} {b0 : UInt8} (hd : d.NoApdu)
    (h : decodeRest frame offset b0 d = some e) :
    ∃ segmented, (d.withPdu ((b0 >>> 4) &&& 0x0F).toNat segmented).Extends e := by
  rw [decodeRest] at h
  generalize ((b0 >>> 4) &&& 0x0F).toNat = pduType at h ⊢
  split at h
  · exact ⟨_, extends_decodeInvoked hd.hasInvokeId hd.hasServiceChoice hd.hasObjectProperty
      hd.hasArrayIndex h⟩
  · exact ⟨_, extends_decodeService hd.hasServiceChoice hd.hasObjectProperty hd.hasArrayIndex h⟩
  · exact ⟨_, extends_decodeInvoked hd.hasInvokeId hd.hasServiceChoice hd.hasObjectProperty
      hd.hasArrayIndex h⟩
  · exact ⟨_, extends_decodePair
      (extends_setService (d := d.withPdu _ _) hd.hasInvokeId hd.hasServiceChoice) h⟩
  · exact ⟨_, extends_decodePair
      (extends_setService (d := d.withPdu _ _) hd.hasInvokeId hd.hasServiceChoice) h⟩
  · exact ⟨_, extends_decodePair
      (extends_setReason (d := d.withPdu _ _) hd.hasInvokeId hd.hasReason) h⟩
  · exact ⟨_, extends_decodePair
      (extends_setReason (d := d.withPdu _ _) hd.hasInvokeId hd.hasReason) h⟩
  · obtain rfl := Option.some.inj h
    exact ⟨_, .refl _⟩

/-- **The decoder of the APDU only adds** to a frame that has no APDU yet. -/
theorem extends_decodeApdu {offset : ℕ} (hd : d.NoApdu) (h : decodeApdu frame offset d = some e) :
    d.Extends e := by
  rw [decodeApdu_eq] at h
  obtain ⟨b0, -, h⟩ := Option.bind_eq_some_iff.mp h
  obtain ⟨segmented, hrest⟩ := extends_decodeRest hd h
  exact (extends_withPdu hd.hasApdu _ segmented).trans hrest

end Adds

/-! ## What is reported of the payload -/

open Layout

theorem noApdu_reportedHeader (frame : List UInt8) : (reportedHeader frame).NoApdu :=
  ⟨rfl, rfl, rfl, rfl, rfl, rfl⟩

/-- The network message type that is reported, or its default. -/
def reportedMessageType (frame : List UInt8) : UInt8 :=
  if isNetworkMessage frame ∧ payloadStart frame < frame.length then
    octetAt frame (payloadStart frame)
  else 0

/-- The payload adds the message type or an APDU to what is reported of the header. -/
theorem beforeApdu_reportedPayload {frame : List UInt8} {e : DecodedFrame}
    (he : reportedPayload frame (reportedHeader frame) = some e) :
    e.beforeApdu
      = { reportedHeader frame with networkMessageType := reportedMessageType frame } := by
  rw [reportedPayload] at he
  rw [reportedMessageType]
  split at he
  · rename_i hinside
    split at he
    · rename_i hnet
      obtain rfl := Option.some.inj he
      rw [if_pos ⟨hnet, hinside⟩]
      rfl
    · rename_i hnet
      rw [if_neg fun h => hnet h.1, (extends_decodeApdu (noApdu_reportedHeader frame) he).before]
      rfl
  · rename_i hinside
    obtain rfl := Option.some.inj he
    rw [if_neg fun h => hinside h.2]
    rfl


/-! ## The tags of a frame cut short -/

section Cut

open CheckedReads

variable {p f : List UInt8} (h : p <+: f)
include h

theorem carries_decodeTagNumber {b0 : UInt8} {pos : ℕ}
    {next next' : UInt8 → ℕ → Option (Option TagHeader)}
    (hnext : ∀ n pos, Carries (· ≠ none) (next n pos) (next' n pos)) :
    Carries (· ≠ none) (decodeTagNumber p b0 pos next) (decodeTagNumber f b0 pos next') := by
  have hle := h.length_le
  refine .ite (carries_check (by simp) (by omega) fun _ _ => ?_) (hnext _ _)
  exact carries_read h fun _ => hnext _ _

theorem carries_decodeExtendedLength {pos : ℕ} {next next' : ℕ → ℕ → Option (Option TagHeader)}
    (hnext : ∀ n pos, Carries (· ≠ none) (next n pos) (next' n pos)) :
    Carries (· ≠ none) (decodeExtendedLength p pos next) (decodeExtendedLength f pos next') := by
  have hle := h.length_le
  refine carries_check (by simp) (by omega) fun _ _ => carries_read h fun _ => ?_
  refine .ite (hnext _ _) (.ite ?_ ?_)
  · refine carries_check (by simp) (by omega) fun _ _ => ?_
    exact carries_read h fun _ => carries_read h fun _ => hnext _ _
  · refine carries_check (by simp) (by omega) fun _ _ => ?_
    exact carries_read h fun _ => carries_read h fun _ => carries_read h fun _ =>
      carries_read h fun _ => hnext _ _

/-- **A tag read in a cut frame** is the tag of the whole. -/
theorem carries_decodeTagHeader (offset : ℕ) :
    Carries (· ≠ none) (decodeTagHeader p offset) (decodeTagHeader f offset) := by
  have hle := h.length_le
  refine carries_check (by simp) (by omega) fun _ _ => carries_read h fun _ => ?_
  refine carries_decodeTagNumber h fun _ _ => ?_
  refine .ite (.refl _ _) (.ite (.refl _ _) (.ite (.refl _ _) (.ite ?_ (.refl _ _))))
  exact carries_decodeExtendedLength h fun _ _ => .refl _ _

theorem decodeTagHeader_of_cut {offset : ℕ} {tag : TagHeader}
    (htag : decodeTagHeader p offset = some (some tag)) :
    decodeTagHeader f offset = some (some tag) :=
  carries_decodeTagHeader h offset _ (by simp) htag

theorem decodeUnsigned_of_cut {pos length v : ℕ} (hv : decodeUnsigned p pos length = some v) :
    decodeUnsigned f pos length = some v :=
  carries_foldlM (fun _ _ => carries_read h fun _ => .refl _ _) _ _ v trivial hv

/-! ## The APDU of a frame cut short -/

variable {d a e : DecodedFrame}

/-- Each of these stops where it stands, and what the whole frame adds extends that; or it reads
what the whole frame has at its place. -/
theorem decodeArrayIndex_of_cut {pos : ℕ} (ha : decodeArrayIndex p pos d = some a)
    (he : decodeArrayIndex f pos d = some e) (hindex : d.hasArrayIndex = false) : a.Extends e := by
  by_cases hstop : a = d
  · rw [hstop]
    exact extends_decodeArrayIndex hindex he
  rw [decodeArrayIndex] at ha he
  obtain ⟨r, hr, ha⟩ := Option.bind_eq_some_iff.mp ha
  cases r with
  | none => exact absurd (Option.some.inj ha).symm hstop
  | some tag =>
    rw [decodeTagHeader_of_cut h hr] at he
    dsimp only [Option.bind_eq_bind, Option.bind_some] at ha he
    split at ha
    · rename_i htag
      obtain ⟨hcontext, hnumber, hpos, hfour, hinside⟩ := htag
      rw [if_pos ⟨hcontext, hnumber, hpos, hfour, hinside.trans h.length_le⟩] at he
      obtain ⟨v, hv, ha⟩ := Option.bind_eq_some_iff.mp ha
      rw [decodeUnsigned_of_cut h hv] at he
      exact Option.some.inj (ha.symm.trans he) ▸ .refl _
    · exact absurd (Option.some.inj ha).symm hstop

theorem decodeProperty_of_cut {pos objValue : ℕ} (ha : decodeProperty p pos objValue d = some a)
    (he : decodeProperty f pos objValue d = some e) (hproperty : d.hasObjectProperty = false)
    (hindex : d.hasArrayIndex = false) : a.Extends e := by
  by_cases hstop : a = d
  · rw [hstop]
    exact extends_decodeProperty hproperty hindex he
  rw [decodeProperty] at ha he
  obtain ⟨r, hr, ha⟩ := Option.bind_eq_some_iff.mp ha
  cases r with
  | none => exact absurd (Option.some.inj ha).symm hstop
  | some tag =>
    rw [decodeTagHeader_of_cut h hr] at he
    dsimp only [Option.bind_eq_bind, Option.bind_some] at ha he
    split at ha
    · exact absurd (Option.some.inj ha).symm hstop
    · rename_i htag
      have hcut : u32 (pos + tag.headerLength + tag.length) > f.length →
          u32 (pos + tag.headerLength + tag.length) > p.length := h.length_le.trans_lt
      rw [if_neg (by tauto)] at he
      obtain ⟨v, hv, ha⟩ := Option.bind_eq_some_iff.mp ha
      rw [decodeUnsigned_of_cut h hv] at he
      exact decodeArrayIndex_of_cut h ha he hindex

theorem decodeObjectAndProperty_of_cut {offset : ℕ}
    (ha : decodeObjectAndProperty p offset d = some a)
    (he : decodeObjectAndProperty f offset d = some e) (hproperty : d.hasObjectProperty = false)
    (hindex : d.hasArrayIndex = false) : a.Extends e := by
  by_cases hstop : a = d
  · rw [hstop]
    exact extends_decodeObjectAndProperty hproperty hindex he
  rw [decodeObjectAndProperty] at ha he
  obtain ⟨r, hr, ha⟩ := Option.bind_eq_some_iff.mp ha
  cases r with
  | none => exact absurd (Option.some.inj ha).symm hstop
  | some tag =>
    rw [decodeTagHeader_of_cut h hr] at he
    dsimp only [Option.bind_eq_bind, Option.bind_some] at ha he
    split at ha
    · exact absurd (Option.some.inj ha).symm hstop
    · rename_i htag
      have hcut : u32 (offset + tag.headerLength + 4) > f.length →
          u32 (offset + tag.headerLength + 4) > p.length := h.length_le.trans_lt
      rw [if_neg (by tauto)] at he
      obtain ⟨o0, ho0, ha⟩ := Option.bind_eq_some_iff.mp ha
      obtain ⟨o1, ho1, ha⟩ := Option.bind_eq_some_iff.mp ha
      obtain ⟨o2, ho2, ha⟩ := Option.bind_eq_some_iff.mp ha
      obtain ⟨o3, ho3, ha⟩ := Option.bind_eq_some_iff.mp ha
      rw [read_of_cut h ho0, read_of_cut h ho1, read_of_cut h ho2,
        read_of_cut h ho3] at he
      exact decodeProperty_of_cut h ha he hproperty hindex

theorem decodeService_of_cut {offset : ℕ} {services : List UInt8}
    (ha : decodeService p offset services d = some a)
    (he : decodeService f offset services d = some e) (hservice : d.hasServiceChoice = false)
    (hproperty : d.hasObjectProperty = false) (hindex : d.hasArrayIndex = false) : a.Extends e := by
  by_cases hstop : a = d
  · rw [hstop]
    exact extends_decodeService hservice hproperty hindex he
  rw [decodeService] at ha he
  split at ha
  · exact absurd (Option.some.inj ha).symm hstop
  · rename_i hlt
    have hle := h.length_le
    rw [if_neg (by omega)] at he
    obtain ⟨serviceChoice, hchoice, ha⟩ := Option.bind_eq_some_iff.mp ha
    rw [read_of_cut h hchoice] at he
    dsimp only [Option.bind_eq_bind, Option.bind_some] at ha he
    split at ha
    · rename_i hmem
      rw [if_pos hmem] at he
      exact decodeObjectAndProperty_of_cut h ha he hproperty hindex
    · rename_i hmem
      rw [if_neg hmem] at he
      exact Option.some.inj (ha.symm.trans he) ▸ .refl _

theorem decodeInvoked_of_cut {invokeOffset serviceOffset : ℕ} {services : List UInt8}
    (ha : decodeInvoked p invokeOffset serviceOffset services d = some a)
    (he : decodeInvoked f invokeOffset serviceOffset services d = some e)
    (hinvoke : d.hasInvokeId = false) (hservice : d.hasServiceChoice = false)
    (hproperty : d.hasObjectProperty = false) (hindex : d.hasArrayIndex = false) : a.Extends e := by
  by_cases hstop : a = d
  · rw [hstop]
    exact extends_decodeInvoked hinvoke hservice hproperty hindex he
  rw [decodeInvoked] at ha he
  split at ha
  · exact absurd (Option.some.inj ha).symm hstop
  · have hle := h.length_le
    rw [if_neg (by omega)] at he
    obtain ⟨invokeId, hread, ha⟩ := Option.bind_eq_some_iff.mp ha
    rw [read_of_cut h hread] at he
    exact decodeService_of_cut h ha he hservice hproperty hindex

theorem decodePair_of_cut {offset : ℕ} {set : DecodedFrame → UInt8 → UInt8 → DecodedFrame}
    (ha : decodePair p offset set d = some a) (he : decodePair f offset set d = some e)
    (hset : ∀ invokeId octet, d.Extends (set d invokeId octet)) : a.Extends e := by
  by_cases hstop : a = d
  · rw [hstop]
    exact extends_decodePair hset he
  rw [decodePair] at ha he
  split at ha
  · exact absurd (Option.some.inj ha).symm hstop
  · have hle := h.length_le
    rw [if_neg (by omega)] at he
    obtain ⟨invokeId, hinvoke, ha⟩ := Option.bind_eq_some_iff.mp ha
    obtain ⟨octet, hoctet, ha⟩ := Option.bind_eq_some_iff.mp ha
    rw [read_of_cut h hinvoke] at he
    dsimp only [Option.bind_eq_bind, Option.bind_some] at he
    rw [read_of_cut h hoctet] at he
    exact Option.some.inj (ha.symm.trans he) ▸ .refl _

/-- **The APDU of a cut frame** is reported as that of the whole, as far as it goes. -/
theorem decodeApdu_of_cut {offset : ℕ} (hd : d.NoApdu) (ha : decodeApdu p offset d = some a)
    (he : decodeApdu f offset d = some e) : a.Extends e := by
  rw [decodeApdu_eq] at ha he
  obtain ⟨b0, hb0, ha⟩ := Option.bind_eq_some_iff.mp ha
  rw [read_of_cut h hb0] at he
  replace he : decodeRest f offset b0 d = some e := he
  rw [decodeRest] at ha he
  generalize ((b0 >>> 4) &&& 0x0F).toNat = pduType at ha he
  split at ha
  · exact decodeInvoked_of_cut h ha he hd.hasInvokeId hd.hasServiceChoice hd.hasObjectProperty
      hd.hasArrayIndex
  · exact decodeService_of_cut h ha he hd.hasServiceChoice hd.hasObjectProperty hd.hasArrayIndex
  · exact decodeInvoked_of_cut h ha he hd.hasInvokeId hd.hasServiceChoice hd.hasObjectProperty
      hd.hasArrayIndex
  · exact decodePair_of_cut h ha he
      (extends_setService (d := d.withPdu _ _) hd.hasInvokeId hd.hasServiceChoice)
  · exact decodePair_of_cut h ha he
      (extends_setService (d := d.withPdu _ _) hd.hasInvokeId hd.hasServiceChoice)
  · exact decodePair_of_cut h ha he
      (extends_setReason (d := d.withPdu _ _) hd.hasInvokeId hd.hasReason)
  · exact decodePair_of_cut h ha he
      (extends_setReason (d := d.withPdu _ _) hd.hasInvokeId hd.hasReason)
  · split at he
    iterate 7 contradiction
    exact Option.some.inj (ha.symm.trans he) ▸ .refl _

end Cut

end Controller
