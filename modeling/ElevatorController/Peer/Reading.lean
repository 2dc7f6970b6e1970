import ElevatorController.Peer.Answers
import ElevatorController.Peer.Client

/-!
# Peer/Reading — a value served is the value read

    client   bvlc(npdu(read_property_multiple_request(…)))  ──▸  peer
    client   parse_read_property_multiple_ack  ◂──  bvlc(npdu(read_property_multiple_ack(…)))

The whole way of a read, from the datagram the client sends to what it makes of the datagram that
comes back: each property it asked for, with the value the peer serves or the error of one it does
not have.
-/

namespace Controller

open BigEndian Tokens

/-! ## Errors -/

theorem errorClassAndCode_errorPdu {invokeId service errorClass errorCode : ℕ} {apdu : List UInt8}
    (h : errorPdu invokeId service errorClass errorCode = some apdu) :
    errorClassAndCode apdu = .ok (some (errorClass, errorCode)) := by
  simp only [errorPdu, Option.bind_eq_bind, Option.bind_eq_some_iff] at h
  obtain ⟨invoke, hinvoke, choice, hchoice, numbers, hnumbers, h⟩ := h
  obtain ⟨-, rfl⟩ := packB_eq_some hinvoke
  obtain ⟨-, rfl⟩ := packB_eq_some hchoice
  obtain rfl := Option.some.inj h
  obtain ⟨b₁, b₂, -, hvalues, rfl, rfl⟩ := exists_errorNumbers hnumbers
  have hdrop : (0x50 :: [UInt8.ofNat invokeId] ++ [UInt8.ofNat service] ++ numbers).drop 3
      = numbers := rfl
  rw [errorClassAndCode, hdrop, hvalues]
  rfl

/-! ## The frame of a request -/

section Request

variable {apdu data : List UInt8} {dnet : Option ℕ} {dadr : List UInt8}

/-- The frame a peer makes of it. -/
theorem decode_requestDatagram (h : requestDatagram apdu dnet dadr = some data) :
    ∃ frame, Frame.decode data = .ok frame ∧ frame.ok = true ∧ frame.networkMessage = none
      ∧ frame.payload = apdu := by
  obtain ⟨npduOctets, hnpdu, hbvlc⟩ := Option.bind_eq_some_iff.mp h
  exact ⟨_, decode_bvlc_npdu hnpdu hbvlc, rfl, rfl, rfl⟩

/-- A confirmed request in a frame is one, of its service and invoke id. -/
theorem frame_of_confirmedRequest {invokeId service : ℕ} {parameters : List UInt8} {frame : Frame}
    (h : confirmedRequest invokeId service parameters = some apdu)
    (hmessage : frame.networkMessage = none) (hpayload : frame.payload = apdu) :
    frame.pduType = some 0 ∧ frame.service = .ok (some (UInt8.ofNat service))
      ∧ frame.invokeId = .ok (some (UInt8.ofNat invokeId)) := by
  obtain ⟨-, rfl⟩ := confirmedRequest_eq_some h
  have htype := frame.pduType_of_payload hmessage hpayload
  refine ⟨htype, ?_, ?_⟩
  · rw [Frame.service, htype, hpayload]
    rfl
  · rw [Frame.invokeId, htype, hpayload]
    rfl

theorem confirms_iff {frame : Frame} {service given : ℕ} (hgiven : given < 256)
    (hservice : service < 256) (htype : frame.pduType = some 0)
    (h : frame.service = .ok (some (UInt8.ofNat given))) :
    frame.confirms service = true ↔ service = given := by
  rw [Frame.confirms, decide_eq_true_iff, and_iff_right htype, h]
  constructor
  · intro heq
    have hnat := congrArg UInt8.toNat (Option.some.inj (Except.ok.inj heq))
    rw [UInt8.toNat_ofNat_of_lt' hgiven, UInt8.toNat_ofNat_of_lt' hservice] at hnat
    exact hnat.symm
  · rintro rfl
    rfl

end Request

/-! ## A request that is answered -/

section Served

variable {ω : Type} {p : Peer ω} {data : List UInt8} {frame : Frame}

/-- What an encoder makes of the invoke id goes back to the client, if the peer goes on. -/
theorem Peer.serve_answerWith {encode : ℕ → Option (List UInt8)} {invokeId : UInt8}
    (hdecode : Frame.decode data = .ok frame) (hok : frame.ok = true)
    (hmessage : frame.networkMessage = none) (hid : frame.invokeId = .ok (some invokeId))
    (hanswer : (p.server.answer frame).2 = frame.answerWith encode)
    (hrunning : (p.serve data).1.running) :
    ∃ apdu back answer, encode invokeId.toNat = some apdu ∧ (p.serve data).2 = some back
      ∧ Frame.decode back = .ok answer ∧ answer.ok = true ∧ answer.networkMessage = none
      ∧ answer.payload = apdu := by
  have hp : p.running = true := running_of_step (e := .datagram data) hrunning
  have hserve : p.serve data = { p with received := p.received ++ [frame] }.handle frame := by
    rw [serve, if_pos hp, hdecode]
  rw [hserve, handle, if_pos ⟨hok, hmessage⟩] at hrunning ⊢
  have hencoded : frame.answerWith encode = encoded (encode invokeId.toNat) := by
    rw [Frame.answerWith, Frame.answeredId, hid]
    rfl
  rw [hencoded] at hanswer
  rcases hstate : p.server.answer frame with ⟨server, x⟩
  rw [hstate] at hanswer hrunning
  obtain rfl : x = encoded (encode invokeId.toNat) := hanswer
  cases happ : encode invokeId.toNat with
  | none =>
    rw [happ] at hrunning
    cases hrunning
  | some apdu =>
    rw [happ] at hrunning
    dsimp only [encoded] at hrunning ⊢
    cases hreply : reply frame apdu with
    | none =>
      rw [hreply] at hrunning
      cases hrunning
    | some back =>
      obtain ⟨answer, hdecode', hok', hmessage', hpayload', -⟩ := decode_reply hreply
      exact ⟨apdu, back, answer, rfl, rfl, hdecode', hok', hmessage', hpayload'⟩

end Served

/-! ## A property -/

theorem readPropertyRequest_confirmed {apdu : List UInt8}
    {invokeId objectType objectInstance propertyIdentifier : ℕ} {arrayIndex : Option ℕ}
    (h : readPropertyRequest invokeId objectType objectInstance propertyIdentifier arrayIndex
      = some apdu) :
    ∃ parameters, confirmedRequest invokeId serviceReadProperty parameters = some apdu := by
  simp only [readPropertyRequest, Option.bind_eq_bind, Option.bind_eq_some_iff] at h
  obtain ⟨object, -, property, -, index, -, h⟩ := h
  exact ⟨_, h⟩

/-- What a property is answered with: its value, or that it is unknown. -/
def propertyAnswer (objectType objectInstance propertyIdentifier : ℕ)
    (served : Option (List UInt8)) (invokeId : ℕ) : Option (List UInt8) :=
  match served with
  | none => errorPdu invokeId serviceReadProperty errorClassProperty errorCodeUnknownProperty
  | some octets => readPropertyAck invokeId objectType objectInstance propertyIdentifier octets

section Property

variable {ω : Type} {apdu data : List UInt8} {dnet : Option ℕ} {dadr : List UInt8}
  {invokeId objectType objectInstance propertyIdentifier : ℕ}

theorem Server.value_recordRead (s : Server ω) (record : ReadRecord) (object : ObjectKey)
    (property : ℕ) : (s.recordRead record).value object property = s.value object property := rfl

/-- A ReadProperty of a listed object that is not made to fail. -/
theorem Server.answer_readProperty {s : Server ω} {frame : Frame}
    (hconfirms : ∀ service < 256, frame.confirms service = true ↔ service = serviceReadProperty)
    (hparsed : ∀ withArrayIndex, parseReadPropertyRequest frame.payload withArrayIndex
      = .ok (some ⟨objectType, objectInstance, propertyIdentifier, none⟩))
    (hlisted : (Dictionary.get (objectType, objectInstance) s.objects).isSome)
    (honline : s.mode ≠ .offline)
    (hfailure : Dictionary.get (objectType, objectInstance) s.failures = none)
    (hwhole : ((objectType, objectInstance), propertyIdentifier) ∉ s.wholeArraysRefused) :
    (s.answer frame).2 = frame.answerWith (propertyAnswer objectType objectInstance
      propertyIdentifier (s.value (objectType, objectInstance) propertyIdentifier)) := by
  have hread : frame.confirms serviceReadProperty = true := (hconfirms _ (by decide)).mpr rfl
  have hwrite : ¬ frame.confirms serviceWriteProperty = true := fun h =>
    absurd ((hconfirms _ (by decide)).mp h) (by decide)
  have hmultiple : ¬ frame.confirms serviceReadPropertyMultiple = true := fun h =>
    absurd ((hconfirms _ (by decide)).mp h) (by decide)
  have hnone : s.failure frame = .ok none := by
    rw [failure, requestedObject, if_pos hread, hparsed]
    split
    · change Except.ok (Dictionary.get (objectType, objectInstance) s.failures) = _
      rw [hfailure]
    · rfl
  have hspecial : s.readSpecial frame ⟨objectType, objectInstance, propertyIdentifier, none⟩ none
      = (s, .ok none) := by
    rw [readSpecial, if_neg (by rintro ⟨⟩)]
    exact if_neg hwhole
  rw [answer, hnone]
  dsimp only
  rw [keepAndAnswer, if_neg hwrite, answerRequest.eq_def, if_neg honline, if_neg hwrite,
    if_neg hmultiple, if_pos hread, read, hparsed]
  dsimp only
  rw [if_pos hlisted, readListed, hspecial]
  dsimp only
  rw [value_recordRead]
  cases s.value (objectType, objectInstance) propertyIdentifier with
  | none => rfl
  | some served => rfl

/-- A peer with an Analog Value of 20.0. -/
def gauge : Peer Unit where
  server :=
    { deviceInstance := 1
      objectName := []
      objects := [((2, 7), [(85, .octets [0x44, 0x41, 0xA0, 0x00, 0x00])])]
      attributes := () }

/-- ReadProperty of the Present_Value of the Analog Value. -/
def readGauge : List UInt8 :=
  [0x81, 0x0A, 0x00, 0x11, 0x01, 0x04, 0x00, 0x05, 0x09, 0x0C, 0x0C, 0x00, 0x80, 0x00, 0x07, 0x19,
    0x55]

theorem wellTagged_gauge {octets : List UInt8}
    (h : some [0x44, 0x41, 0xA0, 0x00, 0x00] = some octets) : WellTagged octets := by
  have hencode : (Value.real 0x41A00000).encode = some octets := h
  obtain ⟨t, ht⟩ := Value.isValue hencode trivial
  exact ht.wellTagged

end Property

/-! ## Many properties -/

section Multiple

variable {ω : Type} {apdu data : List UInt8} {dnet : Option ℕ} {dadr : List UInt8} {invokeId : ℕ}
  {specifications : List AccessSpecification}

theorem readPropertyMultipleRequest_confirmed
    (h : readPropertyMultipleRequest invokeId specifications = some apdu) :
    ∃ parameters, confirmedRequest invokeId serviceReadPropertyMultiple parameters = some apdu := by
  simp only [readPropertyMultipleRequest, Option.bind_eq_bind, Option.bind_eq_some_iff] at h
  obtain ⟨parameters, -, h⟩ := h
  exact ⟨_, h⟩

/-- A ReadPropertyMultiple, which no failure is about. -/
theorem Server.answer_readPropertyMultiple {s : Server ω} {frame : Frame}
    {members : List (ObjectKey × List ℕ)}
    (hconfirms : ∀ service < 256,
      frame.confirms service = true ↔ service = serviceReadPropertyMultiple)
    (hread : readAccessSpecifications (frame.payload.drop 4) = .ok members)
    (honline : s.mode ≠ .offline) :
    (s.answer frame).2 = frame.answerWith fun invokeId =>
      readPropertyMultipleAck invokeId (s.results members) := by
  have hmultiple : frame.confirms serviceReadPropertyMultiple = true :=
    (hconfirms _ (by decide)).mpr rfl
  have hwrite : ¬ frame.confirms serviceWriteProperty = true := fun h =>
    absurd ((hconfirms _ (by decide)).mp h) (by decide)
  have hproperty : ¬ frame.confirms serviceReadProperty = true := fun h =>
    absurd ((hconfirms _ (by decide)).mp h) (by decide)
  have hnone : s.failure frame = .ok none := by
    rw [failure, requestedObject, if_neg hproperty, if_neg hwrite]
    split <;> rfl
  rw [answer, hnone]
  dsimp only
  rw [keepAndAnswer, if_neg hwrite, answerRequest.eq_def, if_neg honline, if_neg hwrite,
    if_pos hmultiple, readMultiple, hread]
  rfl

theorem Server.get_results (s : Server ω) (members : List (ObjectKey × List ℕ))
    (object : ObjectKey) :
    Dictionary.get object (s.results members)
      = (Dictionary.get object members).map fun properties =>
        properties.map fun property => (property, s.value object property) :=
  Dictionary.get_map (fun object (properties : List ℕ) => properties.map fun property =>
    (property, s.value object property)) object members

/-- The Present_Value of the Analog Value, and a property that it does not have. -/
def gaugeSpecification : List AccessSpecification := [⟨2, 7, [(85, none), (28, none)]⟩]

/-- ReadPropertyMultiple of the two. -/
def readGaugeMultiple : List UInt8 :=
  [0x81, 0x0A, 0x00, 0x15, 0x01, 0x04, 0x00, 0x05, 0x09, 0x0E, 0x0C, 0x00, 0x80, 0x00, 0x07, 0x1E,
    0x09, 0x55, 0x09, 0x1C, 0x1F]

end Multiple

end Controller
