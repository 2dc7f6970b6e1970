import ElevatorController.Model.Protocol

/-!
# Model/Frame — the frame decoder of the log, and the test for a broadcast the stack chose

    BVLC │ NPDU: version control [DNET DLEN DADR] [SNET SLEN SADR] [hops] │ APDU …

Both walk a received datagram with a cursor.  A frame is the list of its octets, of which the length
is the `frameLength` the C++ receives; a read is `frame[i]?`, so a function fails (`none`) exactly
where it reads outside the datagram.  An early `return` keeps what is decoded so far; what follows a
block that may return is its argument `next`.
-/

namespace Controller

/-- `uint32_t` arithmetic. -/
def u32 (n : ℕ) : ℕ := n % 2 ^ 32

/-- `uint16_t` arithmetic. -/
def u16 (n : ℕ) : ℕ := n % 2 ^ 16

/-! ## Tags -/

structure TagHeader where
  tagNumber : UInt8
  contextSpecific : Bool
  isOpeningTag : Bool
  isClosingTag : Bool
  /-- The data length of a primitive tag; 0 for an opening or closing one. -/
  length : ℕ
  /-- The octets of the header itself. -/
  headerLength : ℕ
  deriving DecidableEq

/-- The tag number, extended into the next octet where the first has no room for it. -/
def decodeTagNumber (frame : List UInt8) (b0 : UInt8) (pos : ℕ)
    (next : UInt8 → ℕ → Option (Option TagHeader)) : Option (Option TagHeader) :=
  let tagNumber := (b0 >>> 4) &&& 0x0F
  if tagNumber = 0x0F then
    if pos ≥ frame.length then some none
    else do
      let extended ← frame[pos]?
      next extended (u32 (pos + 1))
  else next tagNumber pos

/-- The extended data length: in one octet, or in two or four after it. -/
def decodeExtendedLength (frame : List UInt8) (pos : ℕ)
    (next : ℕ → ℕ → Option (Option TagHeader)) : Option (Option TagHeader) :=
  if pos ≥ frame.length then some none
  else do
    let lenByte ← frame[pos]?
    let pos := u32 (pos + 1)
    if lenByte.toNat < 254 then next lenByte.toNat pos
    else if lenByte.toNat = 254 then
      if u32 (pos + 2) > frame.length then some none
      else do
        let l0 ← frame[pos]?
        let l1 ← frame[u32 (pos + 1)]?
        next (l0.toNat <<< 8 ||| l1.toNat) (u32 (pos + 2))
    else
      if u32 (pos + 4) > frame.length then some none
      else do
        let l0 ← frame[pos]?
        let l1 ← frame[u32 (pos + 1)]?
        let l2 ← frame[u32 (pos + 2)]?
        let l3 ← frame[u32 (pos + 3)]?
        next (l0.toNat <<< 24 ||| l1.toNat <<< 16 ||| l2.toNat <<< 8 ||| l3.toNat) (u32 (pos + 4))

/-- `DecodeTagHeader`: `some none` is its `false`. -/
def decodeTagHeader (frame : List UInt8) (offset : ℕ) : Option (Option TagHeader) :=
  if offset ≥ frame.length then some none
  else do
    let b0 ← frame[offset]?
    let contextSpecific := b0 &&& 0x08 != 0
    let lvt := (b0 &&& 0x07).toNat
    decodeTagNumber frame b0 (u32 (offset + 1)) fun tagNumber pos =>
      let header (isOpeningTag isClosingTag : Bool) (length pos : ℕ) : TagHeader :=
        { tagNumber, contextSpecific, isOpeningTag, isClosingTag, length,
          headerLength := u32 (pos + 2 ^ 32 - offset) }
      if contextSpecific ∧ lvt = 6 then some (some (header true false 0 pos))
      else if contextSpecific ∧ lvt = 7 then some (some (header false true 0 pos))
      else if lvt ≤ 4 then some (some (header false false lvt pos))
      else if lvt = 5 then
        decodeExtendedLength frame pos fun length pos => some (some (header false false length pos))
      else some none

/-! ## The frame -/

structure DecodedFrame where
  bacnetIp : Bool := false
  bvlcFunction : UInt8 := 0
  hasNpdu : Bool := false
  npduVersion : UInt8 := 0
  npduControl : UInt8 := 0
  hasDest : Bool := false
  dnet : ℕ := 0
  /-- Where in the frame the address starts; `none` is the null pointer. -/
  dadr : Option ℕ := none
  dadrLength : ℕ := 0
  hasSrc : Bool := false
  snet : ℕ := 0
  sadr : Option ℕ := none
  sadrLength : ℕ := 0
  isNetworkMessage : Bool := false
  networkMessageType : UInt8 := 0
  hasApdu : Bool := false
  pduType : ℕ := 0xFF
  segmented : Bool := false
  hasInvokeId : Bool := false
  invokeId : UInt8 := 0
  hasServiceChoice : Bool := false
  serviceChoice : UInt8 := 0
  hasReason : Bool := false
  reason : UInt8 := 0
  hasObjectProperty : Bool := false
  objectType : ℕ := 0
  objectInstance : ℕ := 0
  propertyId : ℕ := 0
  hasArrayIndex : Bool := false
  arrayIndex : ℕ := 0
  deriving DecidableEq

/-- `v = (v << 8) | frame[pos + i]` over the octets of an unsigned. -/
def decodeUnsigned (frame : List UInt8) (pos length : ℕ) : Option ℕ :=
  (List.range length).foldlM (fun v i => do
    let octet ← frame[u32 (pos + i)]?
    some (u32 (v <<< 8) ||| octet.toNat)) 0

/-- The optional PropertyArrayIndex. -/
def decodeArrayIndex (frame : List UInt8) (pos : ℕ) (d : DecodedFrame) : Option DecodedFrame := do
  match ← decodeTagHeader frame pos with
  | none => some d
  | some idxTag =>
    if idxTag.contextSpecific ∧ idxTag.tagNumber = 2 ∧ idxTag.length > 0 ∧ idxTag.length ≤ 4
        ∧ u32 (pos + idxTag.headerLength + idxTag.length) ≤ frame.length then do
      let v ← decodeUnsigned frame (u32 (pos + idxTag.headerLength)) idxTag.length
      some { d with hasArrayIndex := true, arrayIndex := v }
    else some d

/-- The PropertyIdentifier, and what follows it. -/
def decodeProperty (frame : List UInt8) (pos objValue : ℕ) (d : DecodedFrame) :
    Option DecodedFrame := do
  match ← decodeTagHeader frame pos with
  | none => some d
  | some propTag =>
    if ¬ propTag.contextSpecific ∨ propTag.tagNumber ≠ 1 ∨ propTag.length = 0 ∨ propTag.length > 4
        ∨ u32 (pos + propTag.headerLength + propTag.length) > frame.length then some d
    else do
      let propValue ← decodeUnsigned frame (u32 (pos + propTag.headerLength)) propTag.length
      decodeArrayIndex frame (u32 (pos + propTag.headerLength + propTag.length))
        { d with
          hasObjectProperty := true
          objectType := (objValue >>> 22) &&& 0x3FF
          objectInstance := objValue &&& 0x3FFFFF
          propertyId := propValue }

/-- `DecodeObjectAndProperty`. -/
def decodeObjectAndProperty (frame : List UInt8) (offset : ℕ) (d : DecodedFrame) :
    Option DecodedFrame := do
  match ← decodeTagHeader frame offset with
  | none => some d
  | some objTag =>
    if ¬ objTag.contextSpecific ∨ objTag.tagNumber ≠ 0 ∨ objTag.length ≠ 4
        ∨ u32 (offset + objTag.headerLength + 4) > frame.length then some d
    else do
      let objValueOffset := u32 (offset + objTag.headerLength)
      let o0 ← frame[objValueOffset]?
      let o1 ← frame[u32 (objValueOffset + 1)]?
      let o2 ← frame[u32 (objValueOffset + 2)]?
      let o3 ← frame[u32 (objValueOffset + 3)]?
      decodeProperty frame (u32 (objValueOffset + 4))
        (o0.toNat <<< 24 ||| o1.toNat <<< 16 ||| o2.toNat <<< 8 ||| o3.toNat) d

/-- A request or acknowledgement that names its service at `serviceOffset`, and an object and a
property after it if the service is one of `services`. -/
def decodeService (frame : List UInt8) (serviceOffset : ℕ) (services : List UInt8)
    (d : DecodedFrame) : Option DecodedFrame :=
  if serviceOffset ≥ frame.length then some d
  else do
    let serviceChoice ← frame[serviceOffset]?
    let d := { d with hasServiceChoice := true, serviceChoice }
    if serviceChoice ∈ services then decodeObjectAndProperty frame (u32 (serviceOffset + 1)) d
    else some d

/-- The APDU. -/
def decodeApdu (frame : List UInt8) (offset : ℕ) (d : DecodedFrame) : Option DecodedFrame := do
  let b0 ← frame[offset]?
  let d := { d with hasApdu := true, pduType := ((b0 >>> 4) &&& 0x0F).toNat }
  let segmented := b0 &&& 0x08 != 0
  match d.pduType with
  | 0 => -- Confirmed-Request: ReadProperty and WriteProperty name a property
    let d := { d with segmented }
    if u32 (offset + 2) ≥ frame.length then some d
    else do
      let invokeId ← frame[u32 (offset + 2)]?
      decodeService frame (u32 (offset + if segmented then 5 else 3)) [12, 15]
        { d with hasInvokeId := true, invokeId }
  | 1 => -- Unconfirmed-Request
    if u32 (offset + 1) ≥ frame.length then some d
    else do
      let serviceChoice ← frame[u32 (offset + 1)]?
      some { d with hasServiceChoice := true, serviceChoice }
  | 3 => -- ComplexACK: ReadProperty names a property
    let d := { d with segmented }
    if u32 (offset + 1) ≥ frame.length then some d
    else do
      let invokeId ← frame[u32 (offset + 1)]?
      decodeService frame (u32 (offset + if segmented then 4 else 2)) [12]
        { d with hasInvokeId := true, invokeId }
  | 2 | 5 => -- SimpleACK, Error
    if u32 (offset + 2) ≥ frame.length then some d
    else do
      let invokeId ← frame[u32 (offset + 1)]?
      let serviceChoice ← frame[u32 (offset + 2)]?
      some { d with hasInvokeId := true, invokeId, hasServiceChoice := true, serviceChoice }
  | 6 | 7 => -- Reject, Abort
    if u32 (offset + 2) ≥ frame.length then some d
    else do
      let invokeId ← frame[u32 (offset + 1)]?
      let reason ← frame[u32 (offset + 2)]?
      some { d with hasInvokeId := true, invokeId, hasReason := true, reason }
  | _ => some d

/-- A destination or source specifier: the network, the length of the address and the address.  A
truncated address leaves the network set. -/
def decodeSpecifier (frame : List UInt8) (offset : ℕ) (d : DecodedFrame)
    (setNet : DecodedFrame → ℕ → DecodedFrame)
    (setAdr : DecodedFrame → Option ℕ → ℕ → DecodedFrame)
    (next : DecodedFrame → ℕ → Option DecodedFrame) : Option DecodedFrame :=
  if u32 (offset + 3) > frame.length then some d
  else do
    let n0 ← frame[offset]?
    let n1 ← frame[u32 (offset + 1)]?
    let len ← frame[u32 (offset + 2)]?
    let d := setNet d (n0.toNat <<< 8 ||| n1.toNat)
    let offset := u32 (offset + 3)
    if u32 (offset + len.toNat) > frame.length then some d
    else
      next (setAdr d (if len.toNat > 0 then some offset else none) len.toNat)
        (u32 (offset + len.toNat))

/-- `out->dnet`. -/
def DecodedFrame.setDnet (d : DecodedFrame) (dnet : ℕ) : DecodedFrame := { d with dnet }

/-- `out->dadr` and `out->dadrLength`. -/
def DecodedFrame.setDadr (d : DecodedFrame) (dadr : Option ℕ) (dadrLength : ℕ) : DecodedFrame :=
  { d with dadr, dadrLength }

/-- `out->snet`. -/
def DecodedFrame.setSnet (d : DecodedFrame) (snet : ℕ) : DecodedFrame := { d with snet }

/-- `out->sadr` and `out->sadrLength`. -/
def DecodedFrame.setSadr (d : DecodedFrame) (sadr : Option ℕ) (sadrLength : ℕ) : DecodedFrame :=
  { d with sadr, sadrLength }

/-- The destination specifier, if the frame has one. -/
def decodeDest (frame : List UInt8) (offset : ℕ) (d : DecodedFrame)
    (next : DecodedFrame → ℕ → Option DecodedFrame) : Option DecodedFrame :=
  if d.hasDest then decodeSpecifier frame offset d .setDnet .setDadr next else next d offset

/-- The source specifier, if the frame has one. -/
def decodeSrc (frame : List UInt8) (offset : ℕ) (d : DecodedFrame)
    (next : DecodedFrame → ℕ → Option DecodedFrame) : Option DecodedFrame :=
  if d.hasSrc then decodeSpecifier frame offset d .setSnet .setSadr next else next d offset

/-- The hop count, present whenever DNET is. -/
def decodeHopCount (frame : List UInt8) (offset : ℕ) (d : DecodedFrame)
    (next : DecodedFrame → ℕ → Option DecodedFrame) : Option DecodedFrame :=
  if d.hasDest then if offset ≥ frame.length then some d else next d (u32 (offset + 1))
  else next d offset

/-- What the NPDU carries: a network layer message, or an APDU. -/
def decodePayload (frame : List UInt8) (d : DecodedFrame) (offset : ℕ) : Option DecodedFrame :=
  if offset ≥ frame.length then some d
  else if d.isNetworkMessage then do
    let networkMessageType ← frame[offset]?
    some { d with networkMessageType }
  else decodeApdu frame offset d

/-- The NPDU. -/
def decodeNpdu (frame : List UInt8) (offset : ℕ) (d : DecodedFrame) : Option DecodedFrame :=
  if u32 (offset + 2) > frame.length then some d
  else do
    let npduVersion ← frame[offset]?
    let npduControl ← frame[u32 (offset + 1)]?
    let d := { d with
      hasNpdu := true, npduVersion, npduControl
      hasDest := npduControl &&& 0x20 != 0
      hasSrc := npduControl &&& 0x08 != 0
      isNetworkMessage := npduControl &&& 0x80 != 0 }
    decodeDest frame (u32 (offset + 2)) d fun d offset =>
      decodeSrc frame offset d fun d offset =>
        decodeHopCount frame offset d fun d offset => decodePayload frame d offset

/-- `DecodeBacnetFrame`. -/
def decodeBacnetFrame (frame : List UInt8) : Option DecodedFrame :=
  if frame.length < 4 then some {}
  else do
    let bvlcType ← frame[0]?
    if bvlcType ≠ 0x81 then some {}
    else do
      let bvlcFunction ← frame[1]?
      let d : DecodedFrame := { bacnetIp := true, bvlcFunction }
      -- Original-Unicast-NPDU, Original-Broadcast-NPDU, Forwarded-NPDU
      if bvlcFunction = 0x0A ∨ bvlcFunction = 0x0B then decodeNpdu frame 4 d
      else if bvlcFunction = 0x04 then decodeNpdu frame 10 d
      else some d

/-! ## A broadcast the stack chose -/

/-- A specifier skipped: `i += 3 + message[i + 2]`. -/
def skipSpecifier (message : List UInt8) (present : Bool) (i : ℕ) (next : ℕ → Option Bool) :
    Option Bool :=
  if present then
    if i + 3 > message.length then some false
    else do
      let len ← message[i + 2]?
      next (u16 (i + (3 + len.toNat)))
  else next i

/-- `IsStackChosenBroadcast`, on a message of `uint16_t` length. -/
def isStackChosenBroadcast (message : List UInt8) : Option Bool :=
  if message.length < 6 then some false
  else do
    let bvlcType ← message[0]?
    if bvlcType ≠ 0x81 then some false
    else do
      let bvlcFunction ← message[1]?
      if bvlcFunction ≠ 0x0A ∧ bvlcFunction ≠ 0x0B then some false
      else if 4 + 2 > message.length then some false
      else do
        let version ← message[4]?
        if version ≠ 0x01 then some false
        else do
          let control ← message[4 + 1]?
          let hasDest := control &&& 0x20 != 0
          skipSpecifier message hasDest (u16 (4 + 2)) fun i =>
            skipSpecifier message (control &&& 0x08 != 0) i fun i =>
              let i := if hasDest then u16 (i + 1) else i
              if control &&& 0x80 ≠ 0 then some true
              else if ¬ i + 2 ≤ message.length then some false
              else do
                let pdu ← message[i]?
                if pdu >>> 4 ≠ 1 then some false
                else do
                  let service ← message[i + 1]?
                  some (service = 0 ∨ service = 1)

end Controller
