import ElevatorController.Peer.Server

/-!
# Peer/Answers — what a peer answers to a confirmed request

    20 id service │ 30 id service … │ 50 id service class code │ 60 id reason │ 71 id reason

Every answer to a confirmed request carries the invoke id of the request, whatever the state of the
peer.  A read changes what the peer has recorded and nothing of what it serves: `kept` is the part
of the state that only an acknowledged write changes.
-/

namespace Controller

open BigEndian Tokens

/-! ## The first octets of an answer -/

/-- An encoder writes the first octet, and the invoke id after it. -/
def StartsWith (first : UInt8) (encode : ℕ → Option (List UInt8)) : Prop :=
  ∀ invokeId apdu, encode invokeId = some apdu →
    ∃ rest, apdu = first :: UInt8.ofNat invokeId :: rest

theorem startsWith_errorPdu (service errorClass errorCode : ℕ) :
    StartsWith 0x50 fun invokeId => errorPdu invokeId service errorClass errorCode := by
  intro invokeId apdu h
  simp only [errorPdu, Option.bind_eq_bind, Option.bind_eq_some_iff] at h
  obtain ⟨invoke, hinvoke, choice, -, numbers, -, h⟩ := h
  obtain ⟨-, rfl⟩ := packB_eq_some hinvoke
  exact ⟨_, (Option.some.inj h).symm⟩

theorem startsWith_simpleAck (service : ℕ) :
    StartsWith 0x20 fun invokeId => simpleAck invokeId service := by
  intro invokeId apdu h
  simp only [simpleAck, Option.bind_eq_bind, Option.bind_eq_some_iff] at h
  obtain ⟨invoke, hinvoke, choice, -, h⟩ := h
  obtain ⟨-, rfl⟩ := packB_eq_some hinvoke
  exact ⟨_, (Option.some.inj h).symm⟩

theorem startsWith_rejectPdu (reason : ℕ) :
    StartsWith 0x60 fun invokeId => rejectPdu invokeId reason := by
  intro invokeId apdu h
  simp only [rejectPdu, Option.bind_eq_bind, Option.bind_eq_some_iff] at h
  obtain ⟨invoke, hinvoke, octet, -, h⟩ := h
  obtain ⟨-, rfl⟩ := packB_eq_some hinvoke
  exact ⟨_, (Option.some.inj h).symm⟩

theorem startsWith_abortPdu (reason : ℕ) :
    StartsWith 0x71 fun invokeId => abortPdu invokeId reason := by
  intro invokeId apdu h
  simp only [abortPdu, Option.bind_eq_bind, Option.bind_eq_some_iff] at h
  obtain ⟨invoke, hinvoke, octet, -, h⟩ := h
  obtain ⟨-, rfl⟩ := packB_eq_some hinvoke
  exact ⟨_, (Option.some.inj h).symm⟩

theorem startsWith_readPropertyAck (objectType objectInstance propertyIdentifier : ℕ)
    (valueOctets : List UInt8) :
    StartsWith 0x30 fun invokeId =>
      readPropertyAck invokeId objectType objectInstance propertyIdentifier valueOctets := by
  intro invokeId apdu h
  simp only [readPropertyAck, Option.bind_eq_bind, Option.bind_eq_some_iff] at h
  obtain ⟨invoke, hinvoke, choice, -, object, -, property, -, opened, -, closed, -, h⟩ := h
  obtain ⟨-, rfl⟩ := packB_eq_some hinvoke
  exact ⟨_, (Option.some.inj h).symm⟩

theorem startsWith_indexedAck (request : ReadRequest) (arrayIndex : ℕ)
    (valueOctets : List UInt8) :
    StartsWith 0x30 (Server.indexedAck request arrayIndex valueOctets) := by
  intro invokeId apdu h
  simp only [Server.indexedAck, Option.bind_eq_bind, Option.bind_eq_some_iff] at h
  obtain ⟨invoke, hinvoke, choice, -, object, -, property, -, index, -, opened, -, closed, -, h⟩ := h
  obtain ⟨-, rfl⟩ := packB_eq_some hinvoke
  exact ⟨_, (Option.some.inj h).symm⟩

theorem startsWith_readPropertyMultipleAck
    (results : List (ObjectKey × List (ℕ × Option (List UInt8)))) :
    StartsWith 0x30 fun invokeId => readPropertyMultipleAck invokeId results := by
  intro invokeId apdu h
  simp only [readPropertyMultipleAck, Option.bind_eq_bind, Option.bind_eq_some_iff] at h
  obtain ⟨invoke, hinvoke, body, -, h⟩ := h
  obtain ⟨-, rfl⟩ := packB_eq_some hinvoke
  exact ⟨_, (Option.some.inj h).symm⟩

theorem startsWith_iAm {deviceInstance vendorIdentifier : ℕ} {apdu : List UInt8}
    (h : iAm deviceInstance vendorIdentifier = some apdu) : ∃ rest, apdu = 0x10 :: rest := by
  simp only [iAm, Option.bind_eq_bind, Option.bind_eq_some_iff] at h
  obtain ⟨object, -, maxApdu, -, segmentation, -, vendor, -, h⟩ := h
  exact ⟨_, (Option.some.inj h).symm⟩

/-- An encoder that first encodes a value. -/
theorem StartsWith.bind {first : UInt8} {value : Option (List UInt8)}
    {encode : List UInt8 → ℕ → Option (List UInt8)} (h : ∀ x, StartsWith first (encode x)) :
    StartsWith first fun invokeId => value >>= fun x => encode x invokeId := by
  intro invokeId apdu happ
  obtain ⟨x, -, hx⟩ := Option.bind_eq_some_iff.mp happ
  exact h x invokeId apdu hx

/-! ## The invoke id of an answer -/

/-- The answer, if there is one, has the invoke id of the frame, and its first octet is one of
these. -/
def Answers (frame : Frame) (firsts : List UInt8) (x : Except Raised (Option (List UInt8))) : Prop :=
  ∀ apdu, x = .ok (some apdu) → ∃ first ∈ firsts, ∃ invokeId rest,
    frame.invokeId = .ok (some invokeId) ∧ apdu = first :: invokeId :: rest

section Answers

variable {frame : Frame} {firsts : List UInt8}

theorem answers_none : Answers frame firsts (.ok none) := by
  rintro apdu ⟨⟩

theorem answers_error (e : Raised) : Answers frame firsts (.error e) := by
  rintro apdu ⟨⟩

theorem Answers.mono {more : List UInt8} {x : Except Raised (Option (List UInt8))}
    (h : Answers frame firsts x) (hmore : firsts ⊆ more) : Answers frame more x := fun apdu hx =>
  let ⟨first, hmem, rest⟩ := h apdu hx
  ⟨first, hmore hmem, rest⟩

/-- What an encoder that starts with an octet answers. -/
theorem StartsWith.answers {first : UInt8} {encode : ℕ → Option (List UInt8)}
    (h : StartsWith first encode) (hmem : first ∈ firsts) :
    Answers frame firsts (frame.answerWith encode) := by
  intro apdu hx
  obtain ⟨invokeId, hid, hx⟩ := bind_eq_ok.mp hx
  obtain ⟨given, hgiven, hid⟩ := bind_eq_ok.mp hid
  cases given with
  | none => cases hid
  | some octet =>
    cases hid
    cases happ : encode octet.toNat with
    | none =>
      rw [happ] at hx
      cases hx
    | some apdu' =>
      rw [happ] at hx
      cases hx
      obtain ⟨rest, hrest⟩ := h _ _ happ
      rw [UInt8.ofNat_toNat] at hrest
      exact ⟨first, hmem, octet, rest, hgiven, hrest⟩

/-- What is answered of a confirmed request that is not acknowledged with a SimpleACK. -/
def unacknowledging : List UInt8 := [0x30, 0x50, 0x60, 0x71]

theorem answers_error_pdu (service errorClass errorCode : ℕ) :
    Answers frame unacknowledging (frame.answerWith fun invokeId =>
      errorPdu invokeId service errorClass errorCode) :=
  (startsWith_errorPdu service errorClass errorCode).answers (by decide)

theorem answers_readPropertyAck (objectType objectInstance propertyIdentifier : ℕ)
    (valueOctets : List UInt8) :
    Answers frame unacknowledging (frame.answerWith fun invokeId =>
      readPropertyAck invokeId objectType objectInstance propertyIdentifier valueOctets) :=
  (startsWith_readPropertyAck objectType objectInstance propertyIdentifier valueOctets).answers
    (by decide)

end Answers

/-! ## What a read leaves -/

namespace Server

variable {ω : Type}

/-- What is served and commanded: all that a write looks at. -/
def kept (s : Server ω) :=
  (s.objects, s.commandable, s.relinquishDefaults, s.priorityArrays, s.writable, s.mode,
    s.attributes, s.checkWrite)

/-- The state keeps what is served, and the answer has the invoke id of the frame. -/
structure Reads (s : Server ω) (frame : Frame) (o : Outcome ω (Option (List UInt8))) : Prop where
  kept : o.1.kept = s.kept
  answers : Answers frame unacknowledging o.2

variable {s : Server ω} {frame : Frame}

theorem answers_elementAnswer (request : ReadRequest) (arrayIndex : ℕ) (served : List UInt8) :
    Answers frame unacknowledging (elementAnswer frame request arrayIndex served) := by
  intro apdu hx
  obtain ⟨elements, -, hx⟩ := bind_eq_ok.mp hx
  split at hx
  · exact (StartsWith.bind fun value => startsWith_indexedAck request arrayIndex value).answers
      (by decide) apdu hx
  · split at hx
    · exact (startsWith_indexedAck request arrayIndex _).answers (by decide) apdu hx
    · exact answers_error_pdu _ _ _ apdu hx

theorem reads_readSpecial (request : ReadRequest) (failure : Option Failure) :
    s.Reads frame (s.readSpecial frame request failure) := by
  rw [readSpecial]
  split
  · exact ⟨rfl, answers_readPropertyAck _ _ _ _⟩
  · split
    · split
      · exact ⟨rfl, (startsWith_abortPdu _).answers (by decide)⟩
      · exact ⟨rfl, answers_none⟩
    · split
      · exact ⟨rfl, answers_none⟩
      · split
        · exact ⟨rfl, answers_none⟩
        · exact ⟨rfl, answers_elementAnswer _ _ _⟩

theorem reads_readListed (request : ReadRequest) (failure : Option Failure) :
    s.Reads frame (s.readListed frame request failure) := by
  have hspecial : s.Reads frame (s.readSpecial frame request failure) :=
    reads_readSpecial request failure
  rw [readListed]
  split
  · rename_i s' hs'
    rw [hs'] at hspecial
    dsimp only
    split
    · exact ⟨hspecial.kept, answers_error_pdu _ _ _⟩
    · exact ⟨hspecial.kept, answers_readPropertyAck _ _ _ _⟩
  · exact hspecial

theorem answers_readDeviceProperty :
    Answers frame unacknowledging (s.readDeviceProperty frame) := by
  intro apdu hx
  obtain ⟨request, -, hx⟩ := bind_eq_ok.mp hx
  cases request with
  | none => cases hx
  | some request =>
    dsimp only at hx
    split at hx
    · exact answers_error_pdu _ _ _ apdu hx
    · split at hx
      · exact (StartsWith.bind fun value => startsWith_readPropertyAck _ _ _ value).answers
          (by decide) apdu hx
      · split at hx
        · exact (StartsWith.bind fun value => startsWith_readPropertyAck _ _ _ value).answers
            (by decide) apdu hx
        · exact answers_error_pdu _ _ _ apdu hx

/-- The device answers a confirmed request only if it is a ReadProperty. -/
theorem answers_deviceAnswer (hconfirmed : frame.pduType = some 0) :
    Answers frame unacknowledging (s.deviceAnswer frame) := by
  rw [deviceAnswer]
  split
  · exact answers_readDeviceProperty
  · rw [if_neg (by rw [hconfirmed]; rintro ⟨⟨⟩, -⟩)]
    exact answers_none

theorem reads_read (failure : Option Failure) (hconfirmed : frame.pduType = some 0) :
    s.Reads frame (s.read frame failure) := by
  rw [read]
  split
  · exact ⟨rfl, answers_error _⟩
  · exact ⟨rfl, answers_deviceAnswer hconfirmed⟩
  · split
    · exact reads_readListed _ failure
    · exact ⟨rfl, answers_deviceAnswer hconfirmed⟩

theorem reads_readMultiple : s.Reads frame (s.readMultiple frame) := by
  rw [readMultiple]
  split
  · exact ⟨rfl, answers_error _⟩
  · exact ⟨rfl, (startsWith_readPropertyMultipleAck _).answers (by decide)⟩

/-! ## What a write leaves -/

/-- The value of a write is a NULL. -/
def isNull (request : WriteRequest) : Bool := applicationTag request.valueOctets = .ok (some 0)

variable (s) in
/-- A NULL to a listed property that is not commanded, which a server with commandable objects
acknowledges and does not store. -/
def spares (request : WriteRequest) : Bool :=
  s.commandable.isSome ∧ isNull request
    ∧ ¬ s.commanded (request.objectType, request.objectInstance) request.propertyIdentifier
    ∧ s.mode = .online
    ∧ s.listed (request.objectType, request.objectInstance) request.propertyIdentifier

variable (s) in
/-- What an acknowledged write leaves. -/
def written (request : WriteRequest) : Server ω :=
  if s.spares request then s else (s.accept request (isNull request)).1

variable (s frame) in
/-- **What `_write` can do**: refuse, raise, or acknowledge what it has written. -/
theorem write_cases (request : WriteRequest) :
    ((s.write frame request).1 = s ∧ Answers frame unacknowledging (s.write frame request).2)
      ∨ (∃ e, (s.write frame request).2 = .error e)
      ∨ (s.write frame request = (s.written request,
          frame.answerWith fun invokeId => simpleAck invokeId serviceWriteProperty)
        ∧ (s.spares request
          ∨ s.refusal request = none ∧ (s.accept request (isNull request)).2 = .ok ())) := by
  rw [write]
  split
  · rename_i e _
    exact Or.inr (Or.inl ⟨e, rfl⟩)
  · rename_i tag htag
    have hnull : isNull request = (decide (tag = some 0)) := by
      rw [isNull, htag]
      simp only [Except.ok.injEq]
    dsimp only
    rw [← hnull]
    split
    · rename_i hspared
      have hspares : s.spares request = true := by
        rw [spares]
        exact decide_eq_true hspared
      exact Or.inr (Or.inr ⟨by rw [written, if_pos hspares], Or.inl hspares⟩)
    · rename_i hspared
      have hspares : ¬ s.spares request = true := fun h => hspared (of_decide_eq_true h)
      split
      · exact Or.inl ⟨rfl, answers_error_pdu _ _ _⟩
      · split
        · exact Or.inl ⟨rfl, answers_error_pdu _ _ _⟩
        · rename_i hrefusal
          split
          · exact Or.inr (Or.inl ⟨_, rfl⟩)
          · rename_i haccept
            refine Or.inr (Or.inr ⟨?_, Or.inr ⟨hrefusal, ?_⟩⟩)
            · rw [written, if_neg hspares, haccept]
            · rw [haccept]

/-! ## What an answer leaves -/

variable (s frame) in
/-- An acknowledged write: the request that was kept, and the state and answer after it. -/
structure Acknowledges (o : Outcome ω (Option (List UInt8))) (request : WriteRequest) : Prop where
  confirms : frame.confirms serviceWriteProperty
  parsed : parseWritePropertyRequest frame.payload = .ok (some request)
  online : s.mode ≠ .offline
  answer : o.2 = frame.answerWith fun invokeId => simpleAck invokeId serviceWriteProperty
  written : o.1 = (s.keepWrite (some request)).written request
  done : (s.keepWrite (some request)).spares request
    ∨ (s.keepWrite (some request)).refusal request = none
      ∧ ((s.keepWrite (some request)).accept request (isNull request)).2 = .ok ()

theorem reads_answerRequest_of_not_write {failure : Option Failure}
    (hconfirmed : frame.pduType = some 0) (hwrite : ¬ frame.confirms serviceWriteProperty)
    (request : Option WriteRequest) :
    s.Reads frame (s.answerRequest frame failure request) := by
  rw [answerRequest.eq_def, if_neg hwrite]
  split
  · split
    · exact ⟨rfl, answers_none⟩
    · exact ⟨rfl, answers_none⟩
  · split
    · exact reads_readMultiple
    · split
      · exact reads_read failure hconfirmed
      · exact ⟨rfl, answers_deviceAnswer hconfirmed⟩

/-- A WriteProperty that has been kept. -/
theorem answerRequest_cases {failure : Option Failure} {request : Option WriteRequest}
    (hwrite : frame.confirms serviceWriteProperty)
    (hparsed : parseWritePropertyRequest frame.payload = .ok request) :
    s.Reads frame ((s.keepWrite request).answerRequest frame failure request)
      ∨ (∃ e, ((s.keepWrite request).answerRequest frame failure request).2 = .error e)
      ∨ ∃ r, s.Acknowledges frame ((s.keepWrite request).answerRequest frame failure request) r := by
  rw [answerRequest.eq_def, if_pos hwrite]
  split
  · rw [if_pos (Or.inr (Or.inr hwrite))]
    exact Or.inl ⟨rfl, answers_none⟩
  · rename_i honline
    cases request with
    | none => exact Or.inl ⟨rfl, answers_none⟩
    | some request =>
      dsimp only
      obtain ⟨hstate, hanswers⟩ | hraised | ⟨hwritten, hdone⟩ :=
        write_cases (s.keepWrite (some request)) frame request
      · exact Or.inl ⟨(congrArg kept hstate).trans rfl, hanswers⟩
      · exact Or.inr (Or.inl hraised)
      · exact Or.inr (Or.inr ⟨request, hwrite, hparsed, honline, congrArg Prod.snd hwritten,
          congrArg Prod.fst hwritten, hdone⟩)

variable (s frame) in
/-- **What an answer to a confirmed request can do**: leave what is served, raise, or acknowledge a
write. -/
theorem answer_cases (hconfirmed : frame.pduType = some 0) :
    s.Reads frame (s.answer frame) ∨ (∃ e, (s.answer frame).2 = .error e)
      ∨ ∃ request, s.Acknowledges frame (s.answer frame) request := by
  rw [answer]
  split
  · exact Or.inr (Or.inl ⟨_, rfl⟩)
  · exact Or.inl ⟨rfl, (startsWith_rejectPdu _).answers (by decide)⟩
  · exact Or.inl ⟨rfl, (startsWith_abortPdu _).answers (by decide)⟩
  · exact Or.inl ⟨rfl, answers_none⟩
  · rw [keepAndAnswer]
    split
    · rename_i hwrite
      split
      · exact Or.inr (Or.inl ⟨_, rfl⟩)
      · rename_i hparsed
        exact answerRequest_cases hwrite hparsed
    · rename_i hwrite
      exact Or.inl (reads_answerRequest_of_not_write hconfirmed hwrite none)

variable (s frame) in
/-- **Every answer to a confirmed request carries its invoke id.** -/
theorem answers_answer (hconfirmed : frame.pduType = some 0) :
    Answers frame (0x20 :: unacknowledging) (s.answer frame).2 := by
  obtain hreads | ⟨e, he⟩ | ⟨request, hack⟩ := s.answer_cases frame hconfirmed
  · exact hreads.answers.mono (List.subset_cons_self _ _)
  · rw [he]
    exact answers_error e
  · rw [hack.answer]
    exact (startsWith_simpleAck serviceWriteProperty).answers List.mem_cons_self

/-- An unconfirmed request, or anything else, is answered at most with an I-Am. -/
theorem answer_of_not_confirmed (hconfirmed : frame.pduType ≠ some 0) :
    (s.answer frame).1 = s ∧ ∀ apdu, (s.answer frame).2 = .ok (some apdu) →
      ∃ rest, apdu = 0x10 :: rest := by
  have hnot : ∀ service, ¬ frame.confirms service = true := fun service h =>
    hconfirmed (of_decide_eq_true h).1
  have hfailure : s.failure frame = .ok none := if_neg fun h => hconfirmed h.1
  have hanswer : s.answer frame
      = if s.mode = .offline then (s, .ok none) else (s, s.deviceAnswer frame) := by
    rw [answer, hfailure]
    dsimp only
    rw [keepAndAnswer, if_neg (hnot _)]
    simp only [answerRequest.eq_def, hnot, or_self, Bool.false_eq_true, if_false]
  rw [hanswer]
  split
  · exact ⟨rfl, by rintro apdu ⟨⟩⟩
  · refine ⟨rfl, fun apdu happ => ?_⟩
    rw [deviceAnswer, if_neg (hnot _)] at happ
    split at happ
    · obtain ⟨limits, -, happ⟩ := bind_eq_ok.mp happ
      have hencoded : ∀ {apdu}, encoded (iAm s.deviceInstance s.vendorIdentifier) = .ok (some apdu) →
          ∃ rest, apdu = 0x10 :: rest := fun h => by
        cases hiAm : iAm s.deviceInstance s.vendorIdentifier with
        | none =>
          rw [hiAm] at h
          cases h
        | some octets =>
          rw [hiAm] at h
          cases h
          exact startsWith_iAm hiAm
      split at happ
      · split at happ
        · exact hencoded happ
        · cases happ
      · exact hencoded happ
    · cases happ

end Server

/-! ## What goes back -/

/-- A reply is read back: the APDU, and the route to where the request came from. -/
theorem decode_reply {request : Frame} {apdu datagram : List UInt8}
    (h : reply request apdu = some datagram) :
    ∃ frame, Frame.decode datagram = .ok frame ∧ frame.ok = true ∧ frame.networkMessage = none
      ∧ frame.payload = apdu ∧ frame.dnet = request.snet
      ∧ frame.dadr = if request.snet.isSome then request.sadr else [] := by
  obtain ⟨npduOctets, hnpdu, hbvlc⟩ := Option.bind_eq_some_iff.mp h
  exact ⟨_, decode_bvlc_npdu hnpdu hbvlc, rfl, rfl, rfl, rfl, rfl⟩

/-- The type of an APDU in a frame. -/
theorem Frame.pduType_of_payload {frame : Frame} (hmessage : frame.networkMessage = none)
    {first : UInt8} {rest : List UInt8} (hpayload : frame.payload = first :: rest) :
    frame.pduType = some (first >>> 4).toNat := by
  rw [Frame.pduType, hmessage, hpayload]

/-- The invoke id of an answer in a frame. -/
theorem Frame.invokeId_of_payload {frame : Frame} (hmessage : frame.networkMessage = none)
    {first invokeId : UInt8} {rest : List UInt8} (hpayload : frame.payload = first :: invokeId :: rest)
    (hfirst : (first >>> 4).toNat ∈ [2, 3, 5, 6, 7]) : frame.invokeId = .ok (some invokeId) := by
  have hindex : index frame.payload 1 = .ok invokeId := by
    rw [hpayload]
    rfl
  rw [Frame.invokeId, frame.pduType_of_payload hmessage hpayload]
  simp only [List.mem_cons, List.not_mem_nil, or_false] at hfirst
  rcases hfirst with hfirst | hfirst | hfirst | hfirst | hfirst <;>
    simp only [hfirst, hindex, ok_bind]

namespace Peer

variable {ω : Type} (p : Peer ω)

/-- A frame that has been answered, and what went back. -/
structure Answered (frame : Frame) (o : Peer ω × Option (List UInt8)) : Prop where
  apdu : frame.ok = true ∧ frame.networkMessage = none
  server : o.1.server = (p.server.answer frame).1
  sent : ((p.server.answer frame).2 = .ok none ∧ o.2 = none)
    ∨ ∃ apdu datagram, (p.server.answer frame).2 = .ok (some apdu)
      ∧ reply frame apdu = some datagram ∧ o.2 = some datagram

variable {p}

theorem handle_cases {frame : Frame} (hrunning : (p.handle frame).1.running) :
    p.running = true ∧ (p.Answered frame (p.handle frame) ∨ p.handle frame = (p, none)) := by
  rw [handle] at hrunning ⊢
  split at hrunning
  · rename_i hapdu
    rw [if_pos hapdu]
    rcases hanswer : p.server.answer frame with ⟨server, x⟩
    rw [hanswer] at hrunning
    match x with
    | .error e => cases hrunning
    | .ok none =>
      refine ⟨hrunning, Or.inl ⟨hapdu, ?_, Or.inl ⟨?_, rfl⟩⟩⟩ <;> rw [hanswer]
    | .ok (some apdu) =>
      dsimp only at hrunning ⊢
      cases hreply : reply frame apdu with
      | none =>
        rw [hreply] at hrunning
        cases hrunning
      | some datagram =>
        rw [hreply] at hrunning
        refine ⟨hrunning, Or.inl ⟨hapdu, ?_, Or.inr ⟨apdu, datagram, ?_, hreply, rfl⟩⟩⟩ <;>
          rw [hanswer]
  · rename_i hapdu
    rw [if_neg hapdu]
    exact ⟨hrunning, Or.inr rfl⟩

/-- **What a pass of `_serve` can do that goes on**: answer a frame, or only keep it. -/
theorem serve_cases {data : List UInt8} (hrunning : (p.serve data).1.running) :
    ∃ frame, Frame.decode data = .ok frame ∧ (p.Answered frame (p.serve data)
      ∨ (p.serve data).1.server = p.server ∧ (p.serve data).2 = none) := by
  rw [serve] at hrunning ⊢
  split at hrunning
  · rename_i hp
    rw [if_pos hp]
    split at hrunning
    · cases hrunning
    · rename_i frame hframe
      refine ⟨frame, hframe, ?_⟩
      obtain ⟨-, hanswered | hkept⟩ := handle_cases hrunning
      · exact Or.inl ⟨hanswered.apdu, hanswered.server, hanswered.sent⟩
      · exact Or.inr ⟨congrArg (fun o => o.1.server) hkept, congrArg Prod.snd hkept⟩
  · rename_i hp
    exact absurd hrunning hp

/-- A peer that has answered goes on. -/
theorem running_of_sent {data datagram : List UInt8} (h : (p.serve data).2 = some datagram) :
    (p.serve data).1.running := by
  rw [serve] at h ⊢
  split at h
  · rename_i hp
    rw [if_pos hp]
    split at h
    · cases h
    · rw [handle] at h ⊢
      split at h
      · rename_i hapdu
        rw [if_pos hapdu]
        split at h
        · cases h
        · cases h
        · split at h
          · exact hp
          · cases h
      · cases h
  · cases h

/-- The thread that runs after an event ran before it. -/
theorem running_of_step {e : PeerEvent ω} (h : (p.step e).1.running) : p.running = true := by
  cases e with
  | datagram data =>
    change (p.serve data).1.running = true at h
    rw [serve] at h
    split at h
    · assumption
    · exact h
  | _ => exact h

end Peer

end Controller
