import ElevatorController.Machinery.PriorityMap
import ElevatorController.Peer.Answers

/-!
# Peer/Commands — what a peer serves is what it has acknowledged

    WriteProperty  ──▸  SimpleACK       the slot, the Present_Value, the property … are the write's
                   ──▸  anything else   nothing changes

Seen from outside, a peer is a map of registers and of priority maps.  `acknowledged` is what a
client sees: the WriteProperty of a datagram that is answered with a SimpleACK; `step_cases` says
that only these change what is served, and the two results follow by induction on a run.
-/

namespace Controller

open BigEndian Tokens

/-! ## What a client sees -/

/-- A datagram that carries a SimpleACK. -/
def isSimpleAck (datagram : List UInt8) : Bool :=
  match Frame.decode datagram with
  | .ok frame => frame.pduType = some 2
  | .error _ => false

/-- The WriteProperty in a datagram. -/
def requestedWrite (data : List UInt8) : Option WriteRequest :=
  match Frame.decode data with
  | .ok frame =>
    match parseWritePropertyRequest frame.payload with
    | .ok request => request
    | .error _ => none
  | .error _ => none

/-- The write that an event makes the peer acknowledge. -/
def Peer.acknowledged {ω : Type} (p : Peer ω) : PeerEvent ω → Option WriteRequest
  | .datagram data => if (p.serve data).2.any isSimpleAck then requestedWrite data else none
  | _ => none

/-- The writes that a run makes it acknowledge. -/
def Peer.acknowledgedIn {ω : Type} (p : Peer ω) : List (PeerEvent ω) → List WriteRequest
  | [] => []
  | e :: es => (p.acknowledged e).toList ++ (p.step e).1.acknowledgedIn es

namespace Server

variable {ω : Type}

/-- What is served and commanded. -/
def served (s : Server ω) := (s.objects, s.commandable, s.relinquishDefaults, s.priorityArrays)

theorem served_of_kept {s s' : Server ω} (h : s'.kept = s.kept) : s'.served = s.served := by
  simp only [kept, Prod.mk.injEq] at h
  obtain ⟨hobjects, hcommandable, hdefaults, harrays, -⟩ := h
  simp only [served, hobjects, hcommandable, hdefaults, harrays]

/-- A write that has been acknowledged, from the state it was written to. -/
structure Writes (s s' : Server ω) (request : WriteRequest) : Prop where
  online : s.mode ≠ .offline
  written : s' = s.written request
  done : s.spares request
    ∨ s.refusal request = none ∧ (s.accept request (isNull request)).2 = .ok ()

end Server

/-! ## Only an acknowledged write changes what is served -/

section Step

variable {frame : Frame} {apdu datagram : List UInt8}

/-- Whether a reply is a SimpleACK is in the first octet of its APDU. -/
theorem isSimpleAck_reply {first : UInt8} {rest : List UInt8}
    (h : reply frame (first :: rest) = some datagram) :
    isSimpleAck datagram = decide ((first >>> 4).toNat = 2) := by
  obtain ⟨back, hdecode, -, hmessage, hpayload, -⟩ := decode_reply h
  simp only [isSimpleAck, hdecode, back.pduType_of_payload hmessage hpayload, Option.some.injEq]

theorem answerWith_ne_none (encode : ℕ → Option (List UInt8)) :
    frame.answerWith encode ≠ .ok none := by
  intro h
  obtain ⟨invokeId, -, h⟩ := bind_eq_ok.mp h
  cases hencode : encode invokeId with
  | none =>
    rw [hencode] at h
    cases h
  | some apdu =>
    rw [hencode] at h
    cases h

theorem type_of_unacknowledging {first : UInt8} (h : first ∈ unacknowledging) :
    ¬ (first >>> 4).toNat = 2 := by
  simp only [unacknowledging, List.mem_cons, List.not_mem_nil, or_false] at h
  rcases h with rfl | rfl | rfl | rfl <;> decide

namespace Peer

variable {ω : Type} {p : Peer ω}

/-- An answered frame: nothing that is served changes, or a write is acknowledged. -/
theorem Answered.cases {o : Peer ω × Option (List UInt8)} (h : p.Answered frame o) :
    (o.2.any isSimpleAck = false ∧ o.1.server.served = p.server.served)
      ∨ ∃ request, ∃ s₁ : Server ω, parseWritePropertyRequest frame.payload = .ok (some request)
        ∧ o.2.any isSimpleAck = true ∧ s₁.kept = p.server.kept
        ∧ s₁.Writes o.1.server request := by
  by_cases hconfirmed : frame.pduType = some 0
  · obtain hreads | ⟨e, he⟩ | ⟨request, hack⟩ := p.server.answer_cases frame hconfirmed
    · refine Or.inl ⟨?_, ?_⟩
      · obtain ⟨-, hnone⟩ | ⟨apdu, datagram, happ, hreply, hsent⟩ := h.sent
        · rw [hnone]
          rfl
        · obtain ⟨first, hmem, invokeId, rest, -, rfl⟩ := hreads.answers apdu happ
          rw [hsent, Option.any_some, isSimpleAck_reply hreply]
          exact decide_eq_false (type_of_unacknowledging hmem)
      · rw [h.server]
        exact Server.served_of_kept hreads.kept
    · obtain ⟨hnone, -⟩ | ⟨apdu, datagram, happ, -⟩ := h.sent
      · rw [he] at hnone
        cases hnone
      · rw [he] at happ
        cases happ
    · refine Or.inr ⟨request, p.server.keepWrite (some request), hack.parsed, ?_, rfl,
        hack.online, h.server.trans hack.written, hack.done⟩
      obtain ⟨hnone, -⟩ | ⟨apdu, datagram, happ, hreply, hsent⟩ := h.sent
      · exact absurd (hack.answer.symm.trans hnone) (answerWith_ne_none _)
      · rw [hack.answer] at happ
        obtain ⟨first, hmem, invokeId, rest, -, rfl⟩ :=
          (startsWith_simpleAck serviceWriteProperty).answers (List.mem_singleton_self 0x20) _ happ
        obtain rfl := List.mem_singleton.mp hmem
        rw [hsent, Option.any_some, isSimpleAck_reply hreply]
        rfl
  · obtain ⟨hserver, happ⟩ := p.server.answer_of_not_confirmed hconfirmed
    refine Or.inl ⟨?_, by rw [h.server, hserver]⟩
    obtain ⟨-, hnone⟩ | ⟨apdu, datagram, hanswer, hreply, hsent⟩ := h.sent
    · rw [hnone]
      rfl
    · obtain ⟨rest, rfl⟩ := happ apdu hanswer
      rw [hsent, Option.any_some, isSimpleAck_reply hreply]
      rfl

/-- A datagram that is answered with a SimpleACK is a write, which has been stored. -/
theorem writes_of_simpleAck {data back : List UInt8} (hback : (p.serve data).2 = some back)
    (hack : isSimpleAck back = true) :
    ∃ request, ∃ s₁ : Server ω, requestedWrite data = some request
      ∧ s₁.kept = p.server.kept ∧ s₁.Writes (p.serve data).1.server request := by
  obtain ⟨frame, hframe, hanswered | ⟨-, hnone⟩⟩ := serve_cases (running_of_sent hback)
  · obtain ⟨hnot, -⟩ | ⟨request, s₁, hparsed, -, hkept, hwrites⟩ := hanswered.cases
    · rw [hback, Option.any_some, hack] at hnot
      cases hnot
    · refine ⟨request, s₁, ?_, hkept, hwrites⟩
      rw [requestedWrite, hframe]
      dsimp only
      rw [hparsed]
  · rw [hback] at hnone
    cases hnone

/-- **What an event can do to a peer that goes on**: leave what is served, or make it acknowledge a
write. -/
theorem step_cases {e : PeerEvent ω} (h : (p.step e).1.running) :
    (p.acknowledged e = none ∧ (p.step e).1.server.served = p.server.served)
      ∨ ∃ request, ∃ s₁ : Server ω, p.acknowledged e = some request ∧ s₁.kept = p.server.kept
        ∧ s₁.Writes (p.step e).1.server request := by
  cases e with
  | datagram data =>
    change (p.serve data).1.running = true at h
    change ((if (p.serve data).2.any isSimpleAck then requestedWrite data else none) = none
        ∧ (p.serve data).1.server.served = p.server.served)
      ∨ ∃ request, ∃ s₁ : Server ω, (if (p.serve data).2.any isSimpleAck then requestedWrite data else none)
          = some request ∧ s₁.kept = p.server.kept ∧ s₁.Writes (p.serve data).1.server request
    obtain ⟨frame, hframe, hanswered | ⟨hserver, hnone⟩⟩ := serve_cases h
    · obtain ⟨hack, hserved⟩ | ⟨request, s₁, hparsed, hack, hkept, hwrites⟩ := hanswered.cases
      · exact Or.inl ⟨by rw [hack]; rfl, hserved⟩
      · refine Or.inr ⟨request, s₁, ?_, hkept, hwrites⟩
        rw [hack, if_pos rfl, requestedWrite, hframe]
        dsimp only
        rw [hparsed]
    · exact Or.inl ⟨by rw [hnone]; rfl, by rw [hserver]⟩
  | _ => exact Or.inl ⟨rfl, rfl⟩

end Peer

end Step

/-! ## What a write changes -/

namespace Server

variable {ω : Type} {s : Server ω} {object key : ObjectKey} {propertyIdentifier property : ℕ}

/-- What is kept of a property. -/
def entry (s : Server ω) (object : ObjectKey) (propertyIdentifier : ℕ) : Option (Served ω) :=
  (Dictionary.get object s.objects).bind (Dictionary.get propertyIdentifier)

/-- `store` is an update at one property of a listed object. -/
theorem entry_store (served : Served ω) :
    (s.store object propertyIdentifier served).entry key property
      = if object = key ∧ propertyIdentifier = property ∧ (Dictionary.get object s.objects).isSome
        then some served else s.entry key property := by
  rw [entry, store, Dictionary.get_modify, entry]
  by_cases hobject : object = key
  · subst hobject
    rw [if_pos rfl]
    cases Dictionary.get object s.objects with
    | none => exact (if_neg (by rintro ⟨-, -, ⟨⟩⟩)).symm
    | some properties =>
      rw [Option.map_some, Option.bind_some, Option.bind_some, Dictionary.get_set]
      by_cases hproperty : propertyIdentifier = property
      · rw [if_pos hproperty, if_pos ⟨rfl, hproperty, rfl⟩]
      · rw [if_neg hproperty, if_neg fun h => hproperty h.2.1]
  · rw [if_neg hobject, if_neg fun h => hobject h.1]

theorem isSome_get_store {served : Served ω} (h : (Dictionary.get key s.objects).isSome) :
    (Dictionary.get key (s.store object propertyIdentifier served).objects).isSome := by
  change (Dictionary.get key (Dictionary.modify object _ s.objects)).isSome
  rw [Dictionary.get_modify]
  split
  · rename_i heq
    rw [heq, Option.isSome_map]
    exact h
  · exact h

/-- **What a command can do**: fill a slot, and store the command that wins. -/
theorem command_cases {priority : Option ℕ} {value : Option (List UInt8)}
    (h : (s.command object priority value).2 = .ok ()) :
    ∃ slots served, Dictionary.get object s.priorityArrays = some slots
      ∧ slotOf priority < slots.length
      ∧ s.winning object (slots.set (slotOf priority) value) = some served
      ∧ (s.command object priority value).1
        = (s.fill object (slots.set (slotOf priority) value)).store object propertyPresentValue
          served := by
  rw [command] at h ⊢
  cases hslots : Dictionary.get object s.priorityArrays with
  | none =>
    rw [hslots] at h
    cases h
  | some slots =>
    rw [hslots] at h
    dsimp only at h ⊢
    by_cases hslot : slotOf priority < slots.length
    · rw [if_pos hslot] at h ⊢
      cases hwinning : s.winning object (slots.set (slotOf priority) value) with
      | none =>
        rw [hwinning] at h
        cases h
      | some served => exact ⟨slots, served, rfl, hslot, hwinning, rfl⟩
    · rw [if_neg hslot] at h
      cases h

end Server

/-! ## A commandable object is a priority map -/

/-- The priority a write commands. -/
def WriteRequest.commandPriority (request : WriteRequest) : ℕ := request.priority.getD 16

/-- A map after a write, which commands or relinquishes if it is of the Present_Value of the
object. -/
def commandBy (key : ObjectKey) (m : PriorityMap (List UInt8)) (request : WriteRequest) :
    PriorityMap (List UInt8) :=
  if (request.objectType, request.objectInstance) = key
      ∧ request.propertyIdentifier = propertyPresentValue then
    if Server.isNull request then m.relinquish request.commandPriority
    else m.command request.commandPriority request.valueOctets
  else m

/-- What is served for a map: the command that wins, or the default. -/
def resolved {ω : Type} (m : PriorityMap (List UInt8)) (default : Served ω) : Served ω :=
  PriorityMap.resolve (fun i => (m i).map Served.octets) default

namespace Server

variable {ω : Type} {s s' : Server ω} {key : ObjectKey} {default : Served ω}
  {m : PriorityMap (List UInt8)}

/-- The slots of the object hold the map. -/
structure Holds (s : Server ω) (key : ObjectKey) (default : Served ω)
    (m : PriorityMap (List UInt8)) : Prop where
  commandable : s.commandable.any (key ∈ ·) = true
  relinquishDefault : Dictionary.get key s.relinquishDefaults = some default
  slots : Dictionary.get key s.priorityArrays = some m.slots
  listed : (Dictionary.get key s.objects).isSome

/-- …and its Present_Value is what the map resolves to. -/
structure Commands (s : Server ω) (key : ObjectKey) (default : Served ω)
    (m : PriorityMap (List UInt8)) : Prop extends Holds s key default m where
  presentValue : s.entry key propertyPresentValue = some (resolved m default)

theorem Commands.of_served (h : s.Commands key default m) (hserved : s'.served = s.served) :
    s'.Commands key default m := by
  simp only [served, Prod.mk.injEq] at hserved
  obtain ⟨hobjects, hcommandable, hdefaults, harrays⟩ := hserved
  refine ⟨⟨hcommandable ▸ h.commandable, hdefaults ▸ h.relinquishDefault, harrays ▸ h.slots,
    hobjects ▸ h.listed⟩, ?_⟩
  rw [entry, hobjects]
  exact h.presentValue

/-- The command that wins is the one the map resolves to. -/
theorem winning_slots (hdefault : Dictionary.get key s.relinquishDefaults = some default) :
    s.winning key m.slots = some (resolved m default) := by
  have hmap : (PriorityMap.slots fun i => (m i).map (Served.octets (ω := ω))).reduceOption
      = m.slots.reduceOption.map Served.octets := by
    rw [← List.reduceOption_map, PriorityMap.slots, PriorityMap.slots, List.map_map]
    rfl
  rw [resolved, PriorityMap.resolve_eq_head, hmap, winning]
  cases m.slots.reduceOption with
  | nil => exact hdefault
  | cons first rest => rfl

/-- The slot of a priority that has one. -/
theorem slotOf_add_one {request : WriteRequest} (h : slotOf request.priority < 16) :
    slotOf request.priority + 1 = PriorityMap.priority request.commandPriority := by
  rw [WriteRequest.commandPriority, PriorityMap.priority]
  rw [slotOf] at h ⊢
  generalize request.priority = priority at h ⊢
  cases priority with
  | none => rfl
  | some n =>
    simp only [Option.getD_some] at h ⊢
    split_ifs at h ⊢ <;> omega

/-- **A command commands the map.** -/
theorem Holds.command {request : WriteRequest} {value : Option (List UInt8)}
    (h : s.Holds key default m)
    (hok : (s.command key request.priority value).2 = .ok ()) :
    (s.command key request.priority value).1.Commands key default
      (Function.update m (PriorityMap.priority request.commandPriority) value) := by
  obtain ⟨slots, served, hslots, hslot, hwinning, hstate⟩ := command_cases hok
  obtain rfl := Option.some.inj (h.slots.symm.trans hslots)
  rw [PriorityMap.length_slots] at hslot
  rw [PriorityMap.set_slots m hslot, slotOf_add_one hslot] at hwinning hstate
  rw [winning_slots h.relinquishDefault] at hwinning
  obtain rfl := Option.some.inj hwinning
  rw [hstate]
  refine ⟨⟨h.commandable, h.relinquishDefault, ?_, isSome_get_store h.listed⟩, ?_⟩
  · change Dictionary.get key (Dictionary.modify key _ s.priorityArrays) = _
    rw [Dictionary.get_modify, if_pos rfl, h.slots]
    rfl
  · rw [entry_store, if_pos ⟨rfl, rfl, h.listed⟩]

/-- What is stored leaves the slots. -/
theorem Holds.store (h : s.Holds key default m) (object : ObjectKey) (propertyIdentifier : ℕ)
    (served : Served ω) : (s.store object propertyIdentifier served).Holds key default m :=
  ⟨h.commandable, h.relinquishDefault, h.slots, isSome_get_store h.listed⟩

/-- What is stored of another object, or another property, leaves the Present_Value. -/
theorem Commands.store (h : s.Commands key default m) {object : ObjectKey} {propertyIdentifier : ℕ}
    (hother : ¬ (object = key ∧ propertyIdentifier = propertyPresentValue)) (served : Served ω) :
    (s.store object propertyIdentifier served).Commands key default m := by
  refine ⟨h.toHolds.store object propertyIdentifier served, ?_⟩
  rw [entry_store, if_neg fun hall => hother ⟨hall.1, hall.2.1⟩]
  exact h.presentValue

/-- …and so do the slots of another object. -/
theorem Commands.fill (h : s.Commands key default m) {object : ObjectKey} (hother : object ≠ key)
    (slots : List (Option (List UInt8))) : (s.fill object slots).Commands key default m := by
  refine ⟨⟨h.commandable, h.relinquishDefault, ?_, h.listed⟩, h.presentValue⟩
  change Dictionary.get key (Dictionary.modify object _ s.priorityArrays) = _
  rw [Dictionary.get_modify, if_neg hother]
  exact h.slots

/-- A property is commanded exactly where it is the Present_Value of a commandable object. -/
theorem commanded_iff {object : ObjectKey} {propertyIdentifier : ℕ} :
    s.commanded object propertyIdentifier = true
      ↔ s.commandable.any (object ∈ ·) = true ∧ propertyIdentifier = propertyPresentValue :=
  decide_eq_true_iff

theorem not_commanded_of_spares {request : WriteRequest} (h : s.spares request = true) :
    ¬ s.commanded (request.objectType, request.objectInstance) request.propertyIdentifier :=
  (of_decide_eq_true h).2.2.1

/-- **An acknowledged write commands the map**, if it is of the Present_Value of the object. -/
theorem Commands.writes {request : WriteRequest} (h : s.Commands key default m)
    (hwrites : s.Writes s' request) : s'.Commands key default (commandBy key m request) := by
  obtain ⟨-, rfl, hdone⟩ := hwrites
  rw [commandBy]
  by_cases hkey : (request.objectType, request.objectInstance) = key
      ∧ request.propertyIdentifier = propertyPresentValue
  · have hcommanded : s.commanded (request.objectType, request.objectInstance)
        request.propertyIdentifier := commanded_iff.mpr ⟨hkey.1 ▸ h.commandable, hkey.2⟩
    have hspares : ¬ s.spares request = true := fun hs => not_commanded_of_spares hs hcommanded
    obtain ⟨-, hok⟩ := hdone.resolve_left hspares
    rw [written, if_neg hspares, if_pos hkey]
    rw [accept, if_pos hcommanded, hkey.1] at hok ⊢
    have hcommands := (h.toHolds.store key request.propertyIdentifier
      (.octets request.valueOctets)).command hok
    split at hcommands
    · rename_i hnull
      rw [if_pos hnull, if_pos hnull]
      exact hcommands
    · rename_i hnull
      rw [if_neg hnull, if_neg hnull]
      exact hcommands
  · rw [if_neg hkey, written]
    split
    · exact h
    · rename_i hspares
      obtain ⟨-, hok⟩ := hdone.resolve_left hspares
      rw [accept] at hok ⊢
      have hstored := h.store hkey (.octets request.valueOctets)
      split at hok
      · rename_i hcommanded
        rw [if_pos hcommanded]
        have hobject : (request.objectType, request.objectInstance) ≠ key := fun heq =>
          hkey ⟨heq, (commanded_iff.mp hcommanded).2⟩
        obtain ⟨slots, served, -, -, -, hstate⟩ := command_cases hok
        rw [hstate]
        exact (hstored.fill hobject _).store (fun hall => hobject hall.1) served
      · rename_i hcommanded
        rw [if_neg hcommanded]
        exact hstored

end Server

namespace Peer

variable {ω : Type} {p : Peer ω} {key : ObjectKey} {default : Served ω}
  {m : PriorityMap (List UInt8)}

/-- The step of a run. -/
theorem commands_step {e : PeerEvent ω} (h : p.server.Commands key default m)
    (hrunning : (p.step e).1.running) :
    (p.step e).1.server.Commands key default ((p.acknowledged e).toList.foldl (commandBy key) m) := by
  obtain ⟨hnone, hserved⟩ | ⟨request, s₁, hsome, hkept, hwrites⟩ := step_cases hrunning
  · rw [hnone]
    exact h.of_served hserved
  · rw [hsome]
    exact (h.of_served (Server.served_of_kept hkept)).writes hwrites

/-- A peer that runs after some events ran after the first of them. -/
theorem running_of_run {events : List (PeerEvent ω)} (h : (p.run events).running) :
    p.running = true := by
  induction events generalizing p with
  | nil => exact h
  | cons e events ih => exact running_of_step (ih h)

theorem commands_run (events : List (PeerEvent ω)) (h : p.server.Commands key default m)
    (hrunning : (p.run events).running) :
    (p.run events).server.Commands key default
      ((p.acknowledgedIn events).foldl (commandBy key) m) := by
  induction events generalizing p m with
  | nil => exact h
  | cons e events ih =>
    rw [acknowledgedIn, List.foldl_append]
    exact ih (commands_step h (running_of_run hrunning)) hrunning

end Peer

/-! ## Any other property is a register -/

/-- A register after a write, which is stored unless it is a NULL that a server with commandable
objects spares a property it has. -/
def storedBy {ω : Type} (key : ObjectKey) (property : ℕ) (hasCommandable : Bool)
    (register : Option (Served ω)) (request : WriteRequest) : Option (Served ω) :=
  if (request.objectType, request.objectInstance) = key ∧ request.propertyIdentifier = property
      ∧ ¬ (hasCommandable ∧ Server.isNull request ∧ register.isSome) then
    some (.octets request.valueOctets)
  else register

namespace Server

variable {ω : Type} {s s' : Server ω} {key : ObjectKey} {property : ℕ} {hasCommandable : Bool}

/-- The object is listed, and the property not commanded. -/
structure Registers (s : Server ω) (key : ObjectKey) (property : ℕ) (hasCommandable : Bool) :
    Prop where
  hasCommandable : s.commandable.isSome = hasCommandable
  listed : (Dictionary.get key s.objects).isSome
  notCommanded : ¬ s.commanded key property

theorem Registers.of_served (h : s.Registers key property hasCommandable) (hserved : s'.served = s.served) :
    s'.Registers key property hasCommandable ∧ s'.entry key property = s.entry key property := by
  simp only [served, Prod.mk.injEq] at hserved
  obtain ⟨hobjects, hcommandable, -, -⟩ := hserved
  refine ⟨⟨hcommandable ▸ h.hasCommandable, hobjects ▸ h.listed, ?_⟩, by
    rw [entry, entry, hobjects]⟩
  rw [commanded_iff, hcommandable, ← commanded_iff]
  exact h.notCommanded

/-- What is stored elsewhere leaves a register. -/
theorem entry_store_of_ne {object : ObjectKey} {propertyIdentifier : ℕ}
    (h : ¬ (object = key ∧ propertyIdentifier = property)) (served : Served ω) :
    (s.store object propertyIdentifier served).entry key property = s.entry key property := by
  rw [entry_store, if_neg fun hall => h ⟨hall.1, hall.2.1⟩]

/-- An accepted write leaves or sets a register. -/
theorem Registers.accept {request : WriteRequest} {isNull : Bool} (h : s.Registers key property hasCommandable)
    (hok : (s.accept request isNull).2 = .ok ()) :
    (s.accept request isNull).1.Registers key property hasCommandable
      ∧ (s.accept request isNull).1.entry key property
        = if (request.objectType, request.objectInstance) = key
            ∧ request.propertyIdentifier = property then
          some (.octets request.valueOctets) else s.entry key property := by
  rw [Server.accept] at hok ⊢
  have hstored : (s.store (request.objectType, request.objectInstance) request.propertyIdentifier
      (.octets request.valueOctets)).entry key property
        = if (request.objectType, request.objectInstance) = key
            ∧ request.propertyIdentifier = property then
          some (.octets request.valueOctets) else s.entry key property := by
    rw [entry_store]
    refine if_congr ?_ rfl rfl
    refine and_congr_right fun hobject => and_iff_left ?_
    rw [hobject]
    exact h.listed
  have hregisters : ∀ {s' : Server ω}, s'.commandable = s.commandable →
      (Dictionary.get key s'.objects).isSome → s'.Registers key property hasCommandable := by
    intro s' hcommandable hlisted
    refine ⟨hcommandable ▸ h.hasCommandable, hlisted, ?_⟩
    rw [commanded_iff, hcommandable, ← commanded_iff]
    exact h.notCommanded
  split at hok
  · rename_i hcommanded
    rw [if_pos hcommanded]
    have hother : ¬ ((request.objectType, request.objectInstance) = key
        ∧ propertyPresentValue = property) := by
      rintro ⟨rfl, rfl⟩
      exact h.notCommanded (commanded_iff.mpr ⟨(commanded_iff.mp hcommanded).1, rfl⟩)
    obtain ⟨slots, served, -, -, -, hstate⟩ := command_cases hok
    rw [hstate]
    refine ⟨hregisters rfl (isSome_get_store (isSome_get_store h.listed)), ?_⟩
    rw [entry_store_of_ne hother]
    exact hstored
  · rename_i hcommanded
    rw [if_neg hcommanded]
    exact ⟨hregisters rfl (isSome_get_store h.listed), hstored⟩

/-- **An acknowledged write sets the register**, if it is of it and not spared. -/
theorem Registers.writes {request : WriteRequest} (h : s.Registers key property hasCommandable)
    (hwrites : s.Writes s' request) :
    s'.Registers key property hasCommandable
      ∧ s'.entry key property
        = storedBy key property hasCommandable (s.entry key property) request := by
  obtain ⟨honline, rfl, hdone⟩ := hwrites
  rw [written, storedBy]
  split
  · rename_i hspares
    refine ⟨h, (if_neg ?_).symm⟩
    rintro ⟨hobject, hproperty, hnot⟩
    obtain ⟨hcommandable, hnull, -, -, hlisted⟩ := of_decide_eq_true hspares
    rw [hobject, hproperty] at hlisted
    exact hnot ⟨h.hasCommandable.symm.trans hcommandable, hnull, hlisted⟩
  · rename_i hspares
    obtain ⟨hrefusal, hok⟩ := hdone.resolve_left hspares
    obtain ⟨hregisters, hentry⟩ := h.accept hok
    refine ⟨hregisters, hentry.trans (if_congr ?_ rfl rfl)⟩
    refine and_congr_right fun hobject => (and_iff_left_of_imp fun hproperty => ?_).symm
    rintro ⟨hcommandable, hnull, hlisted⟩
    have hmode : s.mode = .online := by
      cases hmode : s.mode with
      | online => rfl
      | offline => exact absurd hmode honline
      | refusing =>
        rw [refusal, if_pos (Or.inl hmode)] at hrefusal
        cases hrefusal
    refine hspares (decide_eq_true ⟨h.hasCommandable.trans hcommandable, hnull, ?_, hmode, ?_⟩)
    · rw [hobject, hproperty]
      exact h.notCommanded
    · rw [hobject, hproperty]
      exact hlisted

end Server

namespace Peer

variable {ω : Type} {p : Peer ω} {key : ObjectKey} {property : ℕ}

theorem registers_step {e : PeerEvent ω} {hasCommandable : Bool}
    (h : p.server.Registers key property hasCommandable) (hrunning : (p.step e).1.running) :
    (p.step e).1.server.Registers key property hasCommandable
      ∧ (p.step e).1.server.entry key property
        = (p.acknowledged e).toList.foldl (storedBy key property hasCommandable)
          (p.server.entry key property) := by
  obtain ⟨hnone, hserved⟩ | ⟨request, s₁, hsome, hkept, hwrites⟩ := step_cases hrunning
  · rw [hnone]
    exact h.of_served hserved
  · rw [hsome]
    obtain ⟨hregisters, hentry⟩ := h.of_served (Server.served_of_kept hkept)
    rw [← hentry]
    exact hregisters.writes hwrites

theorem registers_run (events : List (PeerEvent ω)) {hasCommandable : Bool}
    (h : p.server.Registers key property hasCommandable) (hrunning : (p.run events).running) :
    (p.run events).server.entry key property
      = (p.acknowledgedIn events).foldl (storedBy key property hasCommandable)
        (p.server.entry key property) := by
  induction events generalizing p with
  | nil => rfl
  | cons e events ih =>
    obtain ⟨hregisters, hentry⟩ := registers_step h (running_of_run hrunning)
    rw [acknowledgedIn, List.foldl_append, ← hentry]
    exact ih hregisters hrunning

end Peer

/-! ## From its start -/

namespace Server

variable {ω : Type} {s s' : Server ω} {key : ObjectKey} {keys : List ObjectKey}

/-- A commandable object starts with its Present_Value and no commands. -/
theorem get_commandFrom {objects : List (ObjectKey × List (ℕ × Served ω))}
    {commanded : List ((ObjectKey × Served ω) × (ObjectKey × List (Option (List UInt8))))}
    (h : List.Forall₂ (fun key c => commandFrom objects key = some c) keys commanded)
    (hkey : key ∈ keys) :
    ∃ properties default, Dictionary.get key objects = some properties
      ∧ Dictionary.get propertyPresentValue properties = some default
      ∧ Dictionary.get key (commanded.map Prod.fst) = some default
      ∧ Dictionary.get key (commanded.map Prod.snd) = some (List.replicate 16 none) := by
  induction h with
  | nil => cases hkey
  | cons hc _ ih =>
    rename_i first c keys commanded _
    obtain ⟨properties, hproperties, hc⟩ := Option.bind_eq_some_iff.mp hc
    obtain ⟨default, hdefault, hc⟩ := Option.bind_eq_some_iff.mp hc
    obtain rfl := Option.some.inj hc
    simp only [List.map_cons, Dictionary.get]
    by_cases heq : first = key
    · subst heq
      exact ⟨properties, default, hproperties, hdefault, if_pos rfl, if_pos rfl⟩
    · rw [if_neg heq, if_neg heq]
      exact ih ((List.mem_cons.mp hkey).resolve_left (Ne.symm heq))

/-- **A new server commands each of its commandable objects by an empty map.** -/
theorem commands_of_init (hinit : s.init = some s') (hkeys : s.commandable = some keys)
    (hkey : key ∈ keys) :
    ∃ default, s.entry key propertyPresentValue = some default
      ∧ s'.Commands key default PriorityMap.empty := by
  obtain ⟨commanded, hcommanded, hs'⟩ := Option.bind_eq_some_iff.mp hinit
  obtain rfl := Option.some.inj hs'
  rw [hkeys] at hcommanded
  obtain ⟨properties, default, hproperties, hdefault, hrelinquish, hslots⟩ :=
    get_commandFrom (forall₂_of_mapM hcommanded) hkey
  have hentry : s.entry key propertyPresentValue = some default := by
    rw [entry, hproperties]
    exact hdefault
  refine ⟨default, hentry, ⟨?_, hrelinquish, hslots, ?_⟩, hentry⟩
  · change s.commandable.any (key ∈ ·) = true
    rw [hkeys, Option.any_some]
    exact decide_eq_true hkey
  · change (Dictionary.get key s.objects).isSome = true
    rw [hproperties]
    rfl

end Server

section Result

variable {ω : Type} {s s' : Server ω} {key : ObjectKey} {keys : List ObjectKey}

/-- An Analog Output with a commandable Present_Value of 20.0, beside an Analog Value. -/
def actuator : Server Unit where
  deviceInstance := 1
  objectName := []
  objects :=
    [((1, 1), [(85, .octets [0x44, 0x41, 0xA0, 0x00, 0x00])]),
      ((2, 7), [(85, .octets [0x44, 0x41, 0xA0, 0x00, 0x00])])]
  commandable := some [(1, 1)]
  attributes := ()

/-- The actuator, serving. -/
def servingActuator : Peer Unit := ⟨actuator.init.get rfl, [], true⟩

/-- WriteProperty of 60.0 to the Present_Value of an Analog Output, at priority 8. -/
def commandAtEight : List UInt8 :=
  [0x81, 0x0A, 0x00, 0x1A, 0x01, 0x04, 0x00, 0x05, 0x01, 0x0F, 0x0C, 0x00, 0x40, 0x00, 0x01, 0x19,
    0x55, 0x3E, 0x44, 0x42, 0x70, 0x00, 0x00, 0x3F, 0x49, 0x08]

/-- WriteProperty of 60.0 to the Present_Value of the Analog Value. -/
def writeToAnalogValue : List UInt8 :=
  [0x81, 0x0A, 0x00, 0x18, 0x01, 0x04, 0x00, 0x05, 0x01, 0x0F, 0x0C, 0x00, 0x80, 0x00, 0x07, 0x19,
    0x55, 0x3E, 0x44, 0x42, 0x70, 0x00, 0x00, 0x3F]

example : (servingActuator.run [.datagram writeToAnalogValue, .datagram commandAtEight]).server.value
    (2, 7) propertyPresentValue = some [0x44, 0x42, 0x70, 0x00, 0x00] := by rfl

end Result

end Controller
