import ElevatorController.Machinery.Runs
import ElevatorController.Peer.Client
import ElevatorController.Peer.Commands

/-!
# Peer/Exchange — a client and a peer over a network that loses, repeats and reorders

    client ──toPeer──▸ ⋯ ──▸ peer          a datagram that has been sent may arrive once, often,
           ◂── ⋯ ◂──toClient──             late or never

A request is sent up to `1 + retries` times with one invoke id, and its answer recognised by that id
alone.  Each of the datagrams below is marked with the number of the request that it belongs to, a
mark which neither party sees.  `answer_is_to_request` says what the id is worth: an answer was made
to the request it is taken for, or to one that many multiples of 256 earlier.
-/

namespace Controller

open BigEndian Tokens

/-! ## The system -/

/-- A datagram in the network, and the number of the request it is, or answers. -/
structure Packet where
  request : ℕ
  octets : List UInt8
  deriving DecidableEq

/-- The client, the peer, what each has sent to the other, and the answers the client has taken. -/
structure Exchange (ω : Type) where
  client : Client
  peer : Peer ω
  issued : ℕ := 0
  toPeer : List Packet := []
  toClient : List Packet := []
  answers : List (ℕ × Frame) := []

/-- What happens: the client is asked for something, a datagram arrives, the time of an attempt is
over, or the peer hears from someone else or its test. -/
inductive ExchangeEvent (ω : Type) where
  | request (r : ConfirmedRequest) (dnet : Option ℕ) (dadr : List UInt8)
  | reachesPeer (packet : Packet)
  | reachesClient (packet : Packet)
  | timeOut
  | elsewhere (e : PeerEvent ω)

/-- The octets `recvfrom` has room for. -/
def receiveSize : ℕ := 2048

/-- The frame a call of `request` returns with. -/
def Progress.answer : Progress → Option Frame
  | .returns answer => answer.frame
  | _ => none

namespace Exchange

variable {ω : Type} (x : Exchange ω)

/-- The client has made a step for the last request. -/
def afterClient (s : ClientStep) : Exchange ω :=
  { x with
    client := s.client
    toPeer := x.toPeer ++ (s.sent.map (Packet.mk x.issued)).toList
    answers := x.answers ++ (s.progress.answer.map (x.issued, ·)).toList }

/-- The peer has been sent a packet. -/
def atPeer (packet : Packet) : Exchange ω :=
  let served := x.peer.serve (packet.octets.take receiveSize)
  { x with
    peer := served.1
    toClient := x.toClient ++ (served.2.map (Packet.mk packet.request)).toList }

/-- One event.  While `request` has not returned the client cannot be asked again, and it receives
only then. -/
def step : ExchangeEvent ω → Exchange ω
  | .request r dnet dadr =>
    if x.client.waiting.isNone then
      { x with issued := x.issued + 1 }.afterClient (x.client.request r dnet dadr)
    else x
  | .reachesPeer packet => if packet ∈ x.toPeer then x.atPeer packet else x
  | .reachesClient packet =>
    match x.client.waiting with
    | some w =>
      if packet ∈ x.toClient then
        x.afterClient (x.client.arrives w (packet.octets.take receiveSize))
      else x
    | none => x
  | .timeOut =>
    match x.client.waiting with
    | some w => x.afterClient (x.client.timeOut w)
    | none => x
  | .elsewhere e => { x with peer := (x.peer.step e).1 }

/-- A client that has asked for nothing yet, and a peer. -/
def start (retries : ℕ) (peer : Peer ω) : Exchange ω where
  client := { retries }
  peer := peer

end Exchange

/-! ## The client -/

namespace Client

variable {c : Client} {w : Waiting}

/-- The answer that is found is one of the frames, and matches. -/
theorem of_firstAnswer {invokeId : ℕ} {frames : List Frame} {frame : Frame}
    (h : firstAnswer invokeId frames = .ok (some frame)) :
    frame ∈ frames ∧ frame.answersTo invokeId = .ok true := by
  induction frames with
  | nil => cases h
  | cons f frames ih =>
    rw [firstAnswer] at h
    split at h
    · obtain ⟨matched, hmatched, h⟩ := bind_eq_ok.mp h
      cases matched with
      | true =>
        cases h
        exact ⟨List.mem_cons_self, hmatched⟩
      | false => exact (ih h).imp_left (List.mem_cons_of_mem f)
    · exact (ih h).imp_left (List.mem_cons_of_mem f)

/-- **What looking at the frames can come to**: the client waits on, or the call is over and an
answer, if there is one, is a frame that matches. -/
theorem look_cases (c : Client) (w : Waiting) (sent : Option (List UInt8)) :
    ∃ seen waiting progress, c.look w sent = ⟨{ c with seen, waiting }, progress, sent⟩
      ∧ (waiting = some w ∧ progress.answer = none
        ∨ waiting = none ∧ ∀ frame ∈ progress.answer,
          frame ∈ c.frames ∧ frame.answersTo w.invokeId = .ok true) := by
  rw [look]
  split
  · exact ⟨_, _, _, rfl, Or.inr ⟨rfl, by rintro _ ⟨⟩⟩⟩
  · rename_i frame hfound
    refine ⟨_, _, _, rfl, Or.inr ⟨rfl, ?_⟩⟩
    rintro _ ⟨⟩
    exact (of_firstAnswer hfound).imp_left fun h => List.mem_of_mem_drop h
  · exact ⟨_, _, _, rfl, Or.inl ⟨rfl, rfl⟩⟩

end Client

/-! ## A request and its answer -/

/-- The octets of the `n`-th request. -/
def Requests (n : ℕ) (octets : List UInt8) : Prop :=
  ∃ service parameters dnet dadr apdu, confirmedRequest (n % 256) service parameters = some apdu
    ∧ requestDatagram apdu dnet dadr = some octets

/-- The octets answer the `n`-th request: they are received as a frame that carries its invoke id. -/
def Echoes (n : ℕ) (octets : List UInt8) : Prop :=
  ∃ frame first rest, Frame.decode (octets.take receiveSize) = .ok frame
    ∧ frame.networkMessage = none ∧ frame.payload = first :: UInt8.ofNat n :: rest
    ∧ first ∈ 0x20 :: unacknowledging ∧ isSimpleAck octets = decide (frame.pduType = some 2)

section Echo

variable {ω : Type} {n : ℕ} {octets : List UInt8}

theorem ofNat_mod (n : ℕ) : UInt8.ofNat (n % 256) = UInt8.ofNat n := by
  apply UInt8.toNat_inj.mp
  rw [UInt8.toNat_ofNat', UInt8.toNat_ofNat']
  exact Nat.mod_mod n 256

/-- What the peer receives of a request. -/
theorem Requests.decode (h : Requests n octets) :
    ∃ frame, Frame.decode (octets.take receiveSize) = .ok frame ∧ frame.pduType = some 0
      ∧ frame.invokeId = .ok (some (UInt8.ofNat n)) := by
  obtain ⟨service, parameters, dnet, dadr, apdu, hconfirmed, hdata⟩ := h
  obtain ⟨npduOctets, hnpdu, hbvlc⟩ := Option.bind_eq_some_iff.mp hdata
  obtain ⟨-, rfl⟩ := confirmedRequest_eq_some hconfirmed
  obtain ⟨kept, frame, hkept, hdecode, -, hmessage, hpayload, -⟩ :=
    decode_take_bvlc_npdu hnpdu hbvlc (show 1024 ≤ receiveSize by decide) rfl
  obtain ⟨kept, rfl⟩ := Nat.exists_eq_add_of_le' (show 4 ≤ kept by omega)
  rw [ofNat_mod] at hpayload
  have htype := frame.pduType_of_payload hmessage hpayload
  refine ⟨frame, hdecode, htype, ?_⟩
  rw [Frame.invokeId, htype, hpayload]
  rfl

/-- **What a peer sends back to a request answers it.** -/
theorem Peer.echoes {p : Peer ω} {back : List UInt8} (h : Requests n octets)
    (hback : (p.serve (octets.take receiveSize)).2 = some back) : Echoes n back := by
  obtain ⟨frame, hdecode, htype, hid⟩ := h.decode
  obtain ⟨frame', hdecode', hanswered | ⟨-, hnone⟩⟩ := serve_cases (running_of_sent hback)
  · obtain rfl := Except.ok.inj (hdecode.symm.trans hdecode')
    obtain ⟨-, hnone⟩ | ⟨apdu, datagram, happ, hreply, hsent⟩ := hanswered.sent
    · rw [hback] at hnone
      cases hnone
    · obtain rfl := Option.some.inj (hback.symm.trans hsent)
      obtain ⟨first, hfirst, invokeId, rest, hinvokeId, rfl⟩ :=
        p.server.answers_answer frame htype apdu happ
      obtain rfl := Option.some.inj (Except.ok.inj (hid.symm.trans hinvokeId))
      obtain ⟨npduOctets, hnpdu, hbvlc⟩ := Option.bind_eq_some_iff.mp hreply
      obtain ⟨kept, answer, hkept, hdecode, -, hmessage, hpayload, -⟩ :=
        decode_take_bvlc_npdu hnpdu hbvlc (show 1024 ≤ receiveSize by decide) rfl
      obtain ⟨kept, rfl⟩ := Nat.exists_eq_add_of_le' (show 2 ≤ kept by omega)
      refine ⟨answer, first, rest.take kept, hdecode, hmessage, hpayload, hfirst, ?_⟩
      simp only [isSimpleAck_reply hreply, answer.pduType_of_payload hmessage hpayload,
        Option.some.injEq]
  · rw [hback] at hnone
    cases hnone

/-- An answer that is taken for a request has its invoke id. -/
theorem Echoes.mod_eq {frame : Frame} {invokeId : ℕ} (h : Echoes n octets)
    (hdecode : Frame.decode (octets.take receiveSize) = .ok frame)
    (hmatches : frame.answersTo invokeId = .ok true) : n % 256 = invokeId := by
  obtain ⟨frame', first, rest, hdecode', hmessage, hpayload, hfirst, -⟩ := h
  obtain rfl := Except.ok.inj (hdecode.symm.trans hdecode')
  have hid : frame.invokeId = .ok (some (UInt8.ofNat n)) := by
    refine frame.invokeId_of_payload hmessage hpayload ?_
    simp only [unacknowledging, List.mem_cons, List.not_mem_nil, or_false] at hfirst
    rcases hfirst with rfl | rfl | rfl | rfl | rfl <;> decide
  rw [Frame.answersTo] at hmatches
  split at hmatches
  · rw [hid] at hmatches
    have hmatch := of_decide_eq_true (Except.ok.inj hmatches)
    rw [Option.map_some, UInt8.toNat_ofNat'] at hmatch
    exact Option.some.inj hmatch
  · cases hmatches

end Echo

/-! ## What every step keeps -/

namespace Exchange

variable {ω : Type} {x : Exchange ω} {retries : ℕ}

variable (x) in
/-- What has been sent of the `n`-th request. -/
def sent (n : ℕ) : List Packet := x.toPeer.filter (·.request = n)

variable (x retries) in
/-- The last request has been sent, and may be sent again some times. -/
structure Awaits (w : Waiting) : Prop where
  issued : 1 ≤ x.issued
  invokeId : w.invokeId = x.issued % 256
  requests : Requests x.issued w.octets
  resends : w.resends ≤ retries
  sent : x.sent x.issued = List.replicate (1 + retries - w.resends) ⟨x.issued, w.octets⟩
  fresh : ∀ a ∈ x.answers, a.1 < x.issued

variable (x retries) in
/-- The numbers and marks are in order. -/
structure Sound : Prop where
  hasRetries : x.client.retries = retries
  invokeId : x.client.invokeId = x.issued % 256
  waiting : ∀ w ∈ x.client.waiting, x.Awaits retries w
  frames : ∀ frame ∈ x.client.frames, ∃ packet ∈ x.toClient,
    Frame.decode (packet.octets.take receiveSize) = .ok frame
  toPeer : ∀ packet ∈ x.toPeer, 1 ≤ packet.request ∧ packet.request ≤ x.issued
    ∧ Requests packet.request packet.octets
  copies : ∀ n, ∃ octets, ∃ k ≤ 1 + retries, x.sent n = List.replicate k ⟨n, octets⟩
  toClient : ∀ packet ∈ x.toClient, 1 ≤ packet.request ∧ packet.request ≤ x.issued
    ∧ Echoes packet.request packet.octets
  answers : ∀ a ∈ x.answers, a.1 ≤ x.issued ∧ ∃ packet ∈ x.toClient,
    Frame.decode (packet.octets.take receiveSize) = .ok a.2 ∧ packet.request ≤ a.1
      ∧ packet.request % 256 = a.1 % 256
  ordered : (x.answers.map Prod.fst).Pairwise (· < ·)

/-- A step that sends nothing and brings no answer. -/
theorem afterClient_of_none (c : Client) {progress : Progress} (h : progress.answer = none) :
    x.afterClient ⟨c, progress, none⟩ = { x with client := c } := by
  simp only [afterClient, h, Option.map_none, Option.toList_none, List.append_nil]

/-- The call of `request` is over. -/
theorem Sound.over (h : x.Sound retries) :
    { x with client := { x.client with waiting := none } }.Sound retries := by
  refine { h with waiting := ?_ }
  rintro _ ⟨⟩

/-- Looking at the frames. -/
theorem Sound.look {w : Waiting} (h : x.Sound retries) (hw : x.Awaits retries w) :
    (x.afterClient (x.client.look w none)).Sound retries := by
  obtain ⟨seen, waiting, progress, hstep, hcases⟩ := x.client.look_cases w none
  rw [hstep, afterClient]
  simp only [Option.map_none, Option.toList_none, List.append_nil]
  obtain ⟨rfl, hnone⟩ | ⟨rfl, hanswer⟩ := hcases
  · simp only [hnone, Option.map_none, Option.toList_none, List.append_nil]
    refine { h with waiting := ?_ }
    rintro _ ⟨⟩
    exact { hw with }
  · cases hprogress : progress.answer with
    | none =>
      rw [Option.map_none, Option.toList_none, List.append_nil]
      refine { h with waiting := ?_ }
      rintro _ ⟨⟩
    | some frame =>
      rw [Option.map_some, Option.toList_some]
      obtain ⟨hframe, hmatches⟩ := hanswer frame hprogress
      obtain ⟨packet, hpacket, hdecode⟩ := h.frames frame hframe
      obtain ⟨-, hissued, hechoes⟩ := h.toClient packet hpacket
      refine { h with waiting := ?_, answers := ?_, ordered := ?_ }
      · rintro _ ⟨⟩
      · intro a ha
        obtain ha | ha := List.mem_append.mp ha
        · exact h.answers a ha
        · obtain rfl := List.mem_singleton.mp ha
          exact ⟨le_rfl, packet, hpacket, hdecode, hissued,
            (hechoes.mod_eq hdecode hmatches).trans hw.invokeId⟩
      · rw [List.map_append, List.pairwise_append]
        refine ⟨h.ordered, List.pairwise_singleton _ _, fun m hm n hn => ?_⟩
        obtain ⟨a, ha, rfl⟩ := List.mem_map.mp hm
        obtain rfl := List.mem_singleton.mp hn
        exact hw.fresh a ha

/-- An attempt: the request is sent once more. -/
theorem Sound.attempt {w : Waiting} (h : x.Sound retries) (hissued : 1 ≤ x.issued)
    (hid : w.invokeId = x.issued % 256) (hrequests : Requests x.issued w.octets)
    (hresends : w.resends ≤ retries)
    (hsent : x.sent x.issued = List.replicate (retries - w.resends) ⟨x.issued, w.octets⟩)
    (hfresh : ∀ a ∈ x.answers, a.1 < x.issued) :
    (x.afterClient (x.client.attempt w)).Sound retries := by
  let y : Exchange ω := { x with
    client := { x.client with seen := 0, waiting := none }
    toPeer := x.toPeer ++ [⟨x.issued, w.octets⟩] }
  have hy : x.afterClient (x.client.attempt w) = y.afterClient (y.client.look w none) := by
    simp only [Client.attempt, Client.look, afterClient, y]
    split
    · simp
    · simp
    · simp
  have hsentOf : ∀ n, y.sent n
      = x.sent n ++ if n = x.issued then [⟨x.issued, w.octets⟩] else [] := by
    intro n
    rw [Exchange.sent, Exchange.sent, List.filter_append, List.filter_singleton, Bool.cond_decide]
    exact congrArg _ (if_congr eq_comm rfl rfl)
  have hsentIssued : y.sent x.issued
      = List.replicate (1 + retries - w.resends) ⟨x.issued, w.octets⟩ := by
    rw [hsentOf, hsent, if_pos rfl, ← List.replicate_succ']
    congr 1
    omega
  rw [hy]
  refine Sound.look { h with waiting := ?_, toPeer := ?_, copies := ?_ }
    ⟨hissued, hid, hrequests, hresends, hsentIssued, hfresh⟩
  · rintro _ ⟨⟩
  · intro packet hpacket
    obtain hpacket | hpacket := List.mem_append.mp hpacket
    · exact h.toPeer packet hpacket
    · obtain rfl := List.mem_singleton.mp hpacket
      exact ⟨hissued, le_rfl, hrequests⟩
  · intro n
    by_cases hn : n = x.issued
    · subst hn
      exact ⟨w.octets, 1 + retries - w.resends, Nat.sub_le _ _, hsentIssued⟩
    · rw [hsentOf, if_neg hn, List.append_nil]
      exact h.copies n

/-- A call of `request` that has not been answered before. -/
theorem Sound.request (h : x.Sound retries) (hnone : x.client.waiting = none)
    (r : ConfirmedRequest) (dnet : Option ℕ) (dadr : List UInt8) :
    ({ x with issued := x.issued + 1 }.afterClient (x.client.request r dnet dadr)).Sound retries := by
  let y : Exchange ω := { x with
    issued := x.issued + 1
    client := { x.client with invokeId := x.client.nextInvokeId, frames := [] } }
  have hid : x.client.nextInvokeId = (x.issued + 1) % 256 := by
    rw [Client.nextInvokeId, h.invokeId, Nat.mod_add_mod]
  have hy : y.Sound retries := by
    refine { h with invokeId := hid, waiting := ?_, frames := ?_, toPeer := ?_, toClient := ?_, answers := ?_ }
    · intro w hw
      rw [show y.client.waiting = none from hnone] at hw
      cases hw
    · exact fun _ h => absurd h List.not_mem_nil
    · intro packet hpacket
      obtain ⟨hpos, hle, hrequests⟩ := h.toPeer packet hpacket
      exact ⟨hpos, Nat.le_succ_of_le hle, hrequests⟩
    · intro packet hpacket
      obtain ⟨hpos, hle, hechoes⟩ := h.toClient packet hpacket
      exact ⟨hpos, Nat.le_succ_of_le hle, hechoes⟩
    · intro a ha
      obtain ⟨hle, hpacket⟩ := h.answers a ha
      exact ⟨Nat.le_succ_of_le hle, hpacket⟩
  have hsent : y.sent (x.issued + 1) = [] := by
    refine List.filter_eq_nil_iff.mpr fun packet hpacket hmark => ?_
    have hle := (h.toPeer packet hpacket).2.1
    have := of_decide_eq_true hmark
    omega
  change (y.afterClient (x.client.request r dnet dadr)).Sound retries
  rw [Client.request]
  dsimp only
  cases hoctets : (r.build x.client.nextInvokeId).bind (requestDatagram · dnet dadr) with
  | none =>
    rw [afterClient_of_none _ rfl]
    exact hy
  | some octets =>
    obtain ⟨apdu, happ, hdata⟩ := Option.bind_eq_some_iff.mp hoctets
    obtain ⟨service, parameters, hconfirmed⟩ := r.confirmed _ apdu happ
    rw [hid] at hconfirmed
    refine hy.attempt (Nat.le_add_left 1 x.issued) hid
      ⟨service, parameters, dnet, dadr, apdu, hconfirmed, hdata⟩ h.hasRetries.le ?_ ?_
    · rw [h.hasRetries, Nat.sub_self, List.replicate_zero]
      exact hsent
    · exact fun a ha => Nat.lt_succ_of_le (h.answers a ha).1

/-- What the client receives while it waits. -/
theorem Sound.arrives {w : Waiting} {packet : Packet} (h : x.Sound retries)
    (hw : x.client.waiting = some w) (hpacket : packet ∈ x.toClient) :
    (x.afterClient (x.client.arrives w (packet.octets.take receiveSize))).Sound retries := by
  rw [Client.arrives]
  split
  · rw [afterClient_of_none _ rfl]
    exact h.over
  · rename_i frame hdecode
    let y : Exchange ω := { x with
      client := { x.client with frames := x.client.frames ++ [frame] } }
    have hy : y.Sound retries := by
      refine { h with waiting := ?_, frames := ?_ }
      · exact fun w hw => { h.waiting w hw with }
      · intro f hf
        obtain hf | hf := List.mem_append.mp hf
        · exact h.frames f hf
        · obtain rfl := List.mem_singleton.mp hf
          exact ⟨packet, hpacket, hdecode⟩
    exact hy.look (hy.waiting w hw)

/-- The time of an attempt is over. -/
theorem Sound.timeOut {w : Waiting} (h : x.Sound retries) (hw : x.client.waiting = some w) :
    (x.afterClient (x.client.timeOut w)).Sound retries := by
  obtain hawaits := h.waiting w hw
  rw [Client.timeOut]
  split
  · rw [afterClient_of_none _ rfl]
    exact h.over
  · rename_i resends hresends
    have hle := hawaits.resends
    have hsent := hawaits.sent
    rw [hresends] at hle hsent
    refine h.attempt hawaits.issued hawaits.invokeId hawaits.requests (Nat.le_of_succ_le hle) ?_
      hawaits.fresh
    rw [hsent]
    exact congrArg (List.replicate · _) (show 1 + retries - (resends + 1) = retries - resends by omega)

/-- What the peer sends back. -/
theorem Sound.atPeer {packet : Packet} (h : x.Sound retries) (hpacket : packet ∈ x.toPeer) :
    (x.atPeer packet).Sound retries := by
  obtain ⟨hpos, hle, hrequests⟩ := h.toPeer packet hpacket
  have hmore : ∀ {p}, p ∈ x.toClient → p ∈ (x.atPeer packet).toClient :=
    fun hp => List.mem_append_left _ hp
  refine { h with waiting := ?_, frames := ?_, toClient := ?_, answers := ?_ }
  · exact fun w hw => { h.waiting w hw with }
  · intro frame hframe
    obtain ⟨p, hp, hdecode⟩ := h.frames frame hframe
    exact ⟨p, hmore hp, hdecode⟩
  · intro p hp
    obtain hp | hp := List.mem_append.mp hp
    · exact h.toClient p hp
    · rw [Option.mem_toList] at hp
      obtain ⟨back, hback, rfl⟩ := Option.map_eq_some_iff.mp hp
      exact ⟨hpos, hle, Peer.echoes hrequests hback⟩
  · intro a ha
    obtain ⟨hissued, p, hp, hanswer⟩ := h.answers a ha
    exact ⟨hissued, p, hmore hp, hanswer⟩

/-- **Every event keeps the numbers and marks in order.** -/
theorem Sound.step (h : x.Sound retries) (e : ExchangeEvent ω) : (x.step e).Sound retries := by
  cases e with
  | request r dnet dadr =>
    rw [Exchange.step]
    split
    · rename_i hnone
      exact h.request (Option.isNone_iff_eq_none.mp hnone) r dnet dadr
    · exact h
  | reachesPeer packet =>
    rw [Exchange.step]
    split
    · rename_i hpacket
      exact h.atPeer hpacket
    · exact h
  | reachesClient packet =>
    rw [Exchange.step]
    split
    · rename_i w hw
      split
      · rename_i hpacket
        exact h.arrives hw hpacket
      · exact h
    · exact h
  | timeOut =>
    rw [Exchange.step]
    split
    · rename_i w hw
      exact h.timeOut hw
    · exact h
  | elsewhere e =>
    rw [Exchange.step]
    exact { h with waiting := fun w hw => { h.waiting w hw with } }

/-! ## What a run keeps -/

theorem sound_start (retries : ℕ) (peer : Peer ω) : (start retries peer).Sound retries where
  hasRetries := rfl
  invokeId := rfl
  waiting := by rintro _ ⟨⟩
  frames := fun _ h => absurd h List.not_mem_nil
  toPeer := fun _ h => absurd h List.not_mem_nil
  copies := fun _ => ⟨[], 0, Nat.zero_le _, rfl⟩
  toClient := fun _ h => absurd h List.not_mem_nil
  answers := fun _ h => absurd h List.not_mem_nil
  ordered := List.Pairwise.nil

theorem sound_run (retries : ℕ) (peer : Peer ω) (events : List (ExchangeEvent ω)) :
    (Runs.run step events (start retries peer)).Sound retries :=
  Runs.run_invariant (P := fun x : Exchange ω => x.Sound retries) (fun _ e h => h.step e) events
    (sound_start retries peer)

/-- The peer has sent back the octets when it received a request. -/
structure Sends (x : Exchange ω) (e : ExchangeEvent ω) (request : Packet) (back : List UInt8) :
    Prop where
  event : e = .reachesPeer request
  sent : request ∈ x.toPeer
  serve : (x.peer.serve (request.octets.take receiveSize)).2 = some back

/-- What comes into the network to the client is an answer of the peer. -/
theorem mem_toClient_step {packet : Packet} {e : ExchangeEvent ω}
    (h : packet ∈ (x.step e).toClient) :
    packet ∈ x.toClient
      ∨ ∃ request, x.Sends e request packet.octets ∧ request.request = packet.request := by
  cases e with
  | request r dnet dadr =>
    rw [step] at h
    split at h
    · exact Or.inl h
    · exact Or.inl h
  | reachesPeer request =>
    rw [step] at h
    split at h
    · rename_i hrequest
      obtain h | h := List.mem_append.mp h
      · exact Or.inl h
      · rw [Option.mem_toList] at h
        obtain ⟨back, hback, rfl⟩ := Option.map_eq_some_iff.mp h
        exact Or.inr ⟨request, ⟨rfl, hrequest, hback⟩, rfl⟩
    · exact Or.inl h
  | reachesClient packet' =>
    rw [step] at h
    split at h
    · split at h
      · exact Or.inl h
      · exact Or.inl h
    · exact Or.inl h
  | timeOut =>
    rw [step] at h
    split at h
    · exact Or.inl h
    · exact Or.inl h
  | elsewhere e => exact Or.inl h

theorem mem_toClient_run {packet : Packet} {events : List (ExchangeEvent ω)}
    (h : packet ∈ (Runs.run step events x).toClient) :
    packet ∈ x.toClient
      ∨ ∃ s ∈ Runs.steps step events x, ∃ request, s.1.Sends s.2 request packet.octets
        ∧ request.request = packet.request := by
  induction events generalizing x with
  | nil => exact Or.inl h
  | cons e events ih =>
    obtain h | ⟨s, hs, hsends⟩ := ih h
    · exact (mem_toClient_step h).imp_right fun hsends => ⟨(x, e), List.mem_cons_self, hsends⟩
    · exact Or.inr ⟨s, List.mem_cons_of_mem _ hs, hsends⟩

/-- Where an answer comes from. -/
theorem origin_of_answer {peer : Peer ω} {events : List (ExchangeEvent ω)} {n : ℕ} {frame : Frame}
    (h : (n, frame) ∈ (Runs.run step events (start retries peer)).answers) :
    ∃ s ∈ Runs.steps step events (start retries peer), ∃ request back, s.1.Sends s.2 request back
      ∧ Frame.decode (back.take receiveSize) = .ok frame ∧ Echoes request.request back
      ∧ request.request ≤ n ∧ request.request % 256 = n % 256
      ∧ (n ≤ 256 → request.request = n) := by
  have hsound := sound_run retries peer events
  obtain ⟨-, packet, hpacket, hdecode, hle, hmod⟩ := hsound.answers _ h
  obtain ⟨hpos, -, hechoes⟩ := hsound.toClient packet hpacket
  obtain hstart | ⟨s, hs, request, hsends, hrequest⟩ := mem_toClient_run hpacket
  · exact absurd hstart List.not_mem_nil
  · rw [← hrequest] at hpos hle hmod hechoes
    exact ⟨s, hs, request, packet.octets, hsends, hdecode, hechoes, hle, hmod, fun hn => by omega⟩

end Exchange

/-! ## What the client can rely on -/

section Result

open Exchange

variable {ω : Type} {retries : ℕ} {peer : Peer ω} {events : List (ExchangeEvent ω)} {n : ℕ}
  {frame : Frame}

/-- **An answer was made to the request it is taken for, or to one a multiple of 256 earlier**: at
some step of the run the peer received a copy of that request and sent the answer back.  Within the
first 256 requests it is the request itself, however the network delays and repeats. -/
theorem answer_is_to_request
    (h : (n, frame) ∈ (Runs.run step events (start retries peer)).answers) :
    ∃ s ∈ Runs.steps step events (start retries peer), ∃ request back, s.1.Sends s.2 request back
      ∧ Frame.decode (back.take receiveSize) = .ok frame
      ∧ request.request ≤ n ∧ request.request ≡ n [MOD 256]
      ∧ (n ≤ 256 → request.request = n) := by
  obtain ⟨s, hs, request, back, hsends, hdecode, -, hle, hmod, hsame⟩ := origin_of_answer h
  exact ⟨s, hs, request, back, hsends, hdecode, hle, hmod, hsame⟩

/-- The client commands the actuator, and is answered. -/
def commandedOnce : List (ExchangeEvent Unit) :=
  [.request (.writeProperty 1 1 85 [0x44, 0x42, 0x70, 0x00, 0x00] (some 8) none) none [],
    .reachesPeer ⟨1, commandAtEight⟩,
    .reachesClient ⟨1, [0x81, 0x0A, 0x00, 0x09, 0x01, 0x00, 0x20, 0x01, 0x0F]⟩]

/-- The SimpleACK. -/
def commandedFrame : Frame where
  bvlcFunction := some 0x0A
  bvllData := [0x01, 0x00, 0x20, 0x01, 0x0F]
  hasNpdu := true
  payload := [0x20, 0x01, 0x0F]
  ok := true

theorem answer_is_to_request_command :
    ∃ s ∈ Runs.steps step commandedOnce (start 2 servingActuator), ∃ request back,
      s.1.Sends s.2 request back ∧ Frame.decode (back.take receiveSize) = .ok commandedFrame
      ∧ request.request ≤ 1 ∧ request.request ≡ 1 [MOD 256] ∧ (1 ≤ 256 → request.request = 1) :=
  answer_is_to_request (by decide)

/-- **A request is sent at most `1 + retries` times, always with the same octets, and no request is
answered twice.** -/
theorem requests_sent_boundedly (retries : ℕ) (peer : Peer ω) (events : List (ExchangeEvent ω)) :
    (∀ n, ∃ octets, ∃ k ≤ 1 + retries, (Runs.run step events (start retries peer)).sent n
      = List.replicate k ⟨n, octets⟩)
      ∧ ((Runs.run step events (start retries peer)).answers.map Prod.fst).Pairwise (· < ·) :=
  ⟨(sound_run retries peer events).copies, (sound_run retries peer events).ordered⟩

end Result

end Controller
