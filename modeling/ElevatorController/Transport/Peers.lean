import ElevatorController.Transport.Receive
import ElevatorController.Wire.Bounds

/-!
# Transport/Peers — who a frame goes back to

    receptions of a Network Port ──▸ the last from another UDP port ──▸ copy of a chosen broadcast
    a reception ──▸ its connection string ──▸ the datagram of the reply

The peer of an entry is read off the history of a run: it is the source of the last datagram that
was handed over for the Network Port from a UDP port other than the bound one.  The source itself is
read off the connection string that the stack is given, so the statements are about what the stack
sees.
-/

namespace Controller

/-- The address and UDP port that a connection string of six octets names. -/
def Reception.source (reception : Reception) : Option (Ipv4 × ℕ) :=
  match reception.sourceConnectionString with
  | [i0, i1, i2, i3, p0, p1] => some (⟨i0, i1, i2, i3⟩, p0.toNat <<< 8 ||| p1.toNat)
  | _ => none

/-- The peer of a binding, if it has one. -/
def UdpBinding.peer (binding : UdpBinding) : Option (Ipv4 × ℕ) :=
  if binding.hasPeer then some (binding.peerIp, binding.peerPort) else none

/-- The peer a step gives a Network Port: the source of what is handed over for it, if that is not
on the UDP port it is bound to. -/
def notedPeer (i : ℕ) (x : Transport × TransportEvent) : Option (Ipv4 × ℕ) :=
  match x.2.reception x.1, findUdpBindingByInstance x.1.bindings i with
  | some reception, some binding =>
    if reception.networkPortInstance = i then
      reception.source.filter fun source => source.2 ≠ binding.port
    else none
  | _, _ => none

/-- The last peer that a run gives a Network Port. -/
def lastPeer (i : ℕ) (es : List TransportEvent) : Option (Ipv4 × ℕ) :=
  ((Runs.steps TransportEvent.step es {}).filterMap (notedPeer i)).getLast?

/-! ## Addresses -/

/-- The two octets of a UDP port, and the port they are read back to. -/
theorem port_octets (port : UInt16) :
    (port >>> 8).toUInt8.toNat <<< 8 ||| port.toUInt8.toNat = port.toNat := by
  have hlt := port.toNat_lt
  have hhigh : (port >>> 8).toUInt8.toNat = port.toNat / 2 ^ 8 := by
    have hshift : (port >>> 8).toNat = port.toNat >>> 8 := UInt16.toNat_shiftRight port 8
    rw [UInt16.toNat_toUInt8, hshift, Nat.shiftRight_eq_div_pow]
    omega
  have hlow : port.toUInt8.toNat = port.toNat % 2 ^ 8 := UInt16.toNat_toUInt8 port
  rw [hhigh, hlow, ← Nat.shiftLeft_add_eq_or_of_lt (Nat.mod_lt _ (Nat.two_pow_pos 8)),
    Nat.shiftLeft_eq]
  omega

/-- The stack is given the sender's address. -/
theorem ReceivedDatagram.source_reception (m i : ℕ) (d : ReceivedDatagram) :
    (d.reception m i).source = some (d.fromIp, d.fromPort.toNat) := by
  rw [Reception.source, ReceivedDatagram.reception, connectionString]
  simp only [port_octets]

/-- A connection string names the address it was made from, and is not taken for the subnet unless
the frame is a broadcast. -/
theorem HostNetwork.destination_connectionString (host : HostNetwork) (binding : UdpBinding)
    (ip : Ipv4) (port : UInt16) :
    host.destination binding (connectionString ip port) false = some (ip, port.toNat) := by
  rw [connectionString, HostNetwork.destination]
  simp only [Bool.false_eq_true, false_and, if_false, port_octets]

/-! ## The peer after a step -/

section Step

variable {t : Transport} (h : t.WellFormed)
include h

/-- `FindUdpBindingByInstance` finds every binding of the table. -/
theorem Transport.WellFormed.find {entry : UdpEntry} (hentry : entry ∈ t.udpBindings) :
    findUdpBindingByInstance t.bindings entry.binding.networkPortInstance
      = some entry.binding := by
  rw [findUdpBindingByInstance]
  cases hfind : t.bindings.find? fun binding =>
      decide (binding.networkPortInstance = entry.binding.networkPortInstance) with
  | none =>
    have := List.find?_eq_none.mp hfind _ (List.mem_map_of_mem hentry)
    exact absurd (decide_eq_true rfl) this
  | some binding =>
    obtain ⟨other, hother, rfl⟩ := List.mem_map.mp (List.mem_of_find?_eq_some hfind)
    have hinst := List.find?_some hfind
    rw [decide_eq_true_eq] at hinst
    rw [List.inj_on_of_nodup_map h.nodup hother hentry hinst]

omit h in
/-- Nothing is noted for a Network Port that has no entry. -/
theorem notedPeer_of_not_mem {i : ℕ} (hi : i ∉ t.instances) (e : TransportEvent) :
    notedPeer i (t, e) = none := by
  have hnone : findUdpBindingByInstance t.bindings i = none := by
    refine List.find?_eq_none.mpr fun binding hbinding hinst => hi ?_
    obtain ⟨entry, hentry, rfl⟩ := List.mem_map.mp hbinding
    exact List.mem_map.mpr ⟨entry, hentry, of_decide_eq_true hinst⟩
  rw [notedPeer, hnone]
  split
  · rename_i hsome
    cases hsome
  · rfl

omit h in
/-- Only what is handed over is noted. -/
theorem notedPeer_of_reception_none {i : ℕ} {e : TransportEvent} (he : e.reception t = none) :
    notedPeer i (t, e) = none := by
  rw [notedPeer, he]

/-- What a step notes, where something is handed over. -/
theorem notedPeer_of_reception {e : TransportEvent} {d : ReceivedDatagram} {m i : ℕ}
    (he : e.reception t = some (d.reception m i)) {entry : UdpEntry}
    (hentry : entry ∈ t.udpBindings) :
    notedPeer entry.binding.networkPortInstance (t, e)
      = if i = entry.binding.networkPortInstance ∧ d.fromPort.toNat ≠ entry.binding.port then
          some (d.fromIp, d.fromPort.toNat) else none := by
  rw [notedPeer, he, h.find hentry]
  simp only [ReceivedDatagram.source_reception, Option.filter_some, decide_eq_true_eq]
  rw [ReceivedDatagram.reception, ← ite_and]

omit h in
/-- Noting a peer, in the terms of `UdpBinding.peer`. -/
theorem UdpEntry.peer_notePeer {entry : UdpEntry} {i : ℕ} {d : ReceivedDatagram}
    (hbound : entry.binding.networkPortInstance = i → entry.binding.bound = true) :
    (entry.notePeer i d).binding.peer
      = (if i = entry.binding.networkPortInstance ∧ d.fromPort.toNat ≠ entry.binding.port then
          some (d.fromIp, d.fromPort.toNat) else none).or entry.binding.peer := by
  rw [UdpEntry.notePeer]
  by_cases hi : i = entry.binding.networkPortInstance ∧ d.fromPort.toNat ≠ entry.binding.port
  · rw [if_pos ⟨hbound hi.1.symm, hi.1.symm, hi.2⟩, if_pos hi]
    rfl
  · rw [if_neg (fun hall => hi ⟨hall.2.1.symm, hall.2.2⟩), if_neg hi]
    rfl

/-- **The peer after a step**: the one it notes, else the one before; a new entry has none. -/
theorem TransportEvent.peer_step (e : TransportEvent) {entry' : UdpEntry}
    (hentry' : entry' ∈ (e.step t).udpBindings) :
    (∃ entry ∈ t.udpBindings,
        entry.binding.networkPortInstance = entry'.binding.networkPortInstance
        ∧ entry'.binding.peer
          = (notedPeer entry.binding.networkPortInstance (t, e)).or entry.binding.peer)
      ∨ entry'.binding.networkPortInstance ∉ t.instances ∧ entry'.binding.peer = none := by
  cases e with
  | setupUdp port i binds =>
    have hnoted : ∀ k, notedPeer k (t, .setupUdp port i binds) = none := fun k =>
      notedPeer_of_reception_none rfl
    have hsame : ∀ entry ∈ t.udpBindings,
        entry'.binding.networkPortInstance = entry.binding.networkPortInstance →
        entry'.binding.peer = entry.binding.peer →
        ∃ entry ∈ t.udpBindings,
          entry.binding.networkPortInstance = entry'.binding.networkPortInstance
          ∧ entry'.binding.peer = (notedPeer entry.binding.networkPortInstance
            (t, .setupUdp port i binds)).or entry.binding.peer :=
      fun entry hentry hinst hpeer => ⟨entry, hentry, hinst.symm, by rw [hpeer, hnoted]; rfl⟩
    have hconnect : ∀ entry : UdpEntry,
        (entry.connect port binds).binding.peer = entry.binding.peer := fun entry => by
      cases binds <;> rfl
    rw [TransportEvent.step] at hentry'
    obtain ⟨-, heq⟩ | ⟨entries, j, -, -, -, hentries, heq⟩ := t.setupUdp_cases port i binds
    · rw [heq] at hentry'
      exact Or.inl (hsame entry' hentry' rfl rfl)
    · rw [heq] at hentry'
      obtain ⟨entry, hentry, hmod⟩ := mem_modify hentry'
      have hpeer : entry'.binding.peer = entry.binding.peer
          ∧ entry'.binding.networkPortInstance = entry.binding.networkPortInstance := by
        obtain rfl | rfl := hmod
        · exact ⟨rfl, rfl⟩
        · exact ⟨hconnect entry, entry.networkPortInstance_connect port binds⟩
      obtain rfl | ⟨hnew, -, rfl⟩ := hentries
      · exact Or.inl (hsame entry hentry hpeer.2 hpeer.1)
      · rcases List.mem_append.mp hentry with hold | hnewEntry
        · exact Or.inl (hsame entry hold hpeer.2 hpeer.1)
        · obtain rfl := List.mem_singleton.mp hnewEntry
          right
          rw [hpeer.1, hpeer.2]
          exact ⟨hnew, rfl⟩
  | setNetworkPortInstance i =>
    exact Or.inl ⟨entry', hentry', rfl, by rw [notedPeer_of_reception_none rfl]; rfl⟩
  | shutdownUdp =>
    obtain ⟨entry, hentry, rfl⟩ := List.mem_map.mp hentry'
    refine Or.inl ⟨entry, hentry, ?_⟩
    rw [notedPeer_of_reception_none rfl]
    split
    · exact ⟨rfl, rfl⟩
    · exact ⟨rfl, rfl⟩
  | arrive k d =>
    obtain ⟨entry, hentry, rfl | rfl⟩ := mem_modify hentry'
    · exact Or.inl ⟨_, hentry, rfl, by rw [notedPeer_of_reception_none rfl]; rfl⟩
    · exact Or.inl ⟨_, hentry, rfl, by rw [notedPeer_of_reception_none rfl]; rfl⟩
  | receive m c =>
    left
    have hturn : ∀ e ∈ (t.turn m).2.1, ∃ entry ∈ t.udpBindings, entry.binding = e.binding :=
      fun e he => by
        have hmem : e.binding ∈ (t.turn m).2.1.map UdpEntry.binding := List.mem_map_of_mem he
        rw [t.binding_turn m h] at hmem
        exact List.mem_map.mp hmem
    have hgiven := fun r : Option Reception × Transport => fun heq :
        t.helperReceiveMessage m c = r =>
      show TransportEvent.reception t (.receive m c) = r.1 from congrArg Prod.fst heq
    obtain ⟨-, heq⟩ | ⟨-, heq⟩ | ⟨j, served, d, -, hj, hbound, -, -, -, -, heq⟩ :=
      t.helperReceiveMessage_cases m c h
    · rw [TransportEvent.step, heq] at hentry'
      exact ⟨entry', hentry', rfl, by
        rw [notedPeer_of_reception_none (hgiven _ heq)]; rfl⟩
    · rw [TransportEvent.step, heq] at hentry'
      obtain ⟨entry, hentry, hbinding⟩ := hturn entry' hentry'
      exact ⟨entry, hentry, by rw [hbinding], by
        rw [notedPeer_of_reception_none (hgiven _ heq), hbinding]; rfl⟩
    · rw [TransportEvent.step, heq] at hentry'
      obtain ⟨e, he, rfl⟩ := List.mem_map.mp hentry'
      obtain ⟨entry, hentry, hbinding⟩ := hturn e he
      refine ⟨entry, hentry, by rw [e.networkPortInstance_notePeer, hbinding], ?_⟩
      rw [notedPeer_of_reception h (hgiven _ heq) hentry, hbinding]
      refine UdpEntry.peer_notePeer fun hinst => ?_
      -- the entry that was served is the only one for its Network Port
      have hserved : entry = served := List.inj_on_of_nodup_map h.nodup hentry
        (List.mem_of_getElem? hj) (by rw [hbinding, hinst])
      rw [← hbinding, hserved, hbound]

end Step

/-! ## The peer after a run -/

/-- What a run keeps about the peers: each entry has the last one its Network Port was given. -/
structure Transport.PeersOf (t : Transport) (es : List TransportEvent) : Prop where
  peer_eq : ∀ entry ∈ t.udpBindings,
    entry.binding.peer = lastPeer entry.binding.networkPortInstance es
  new : ∀ i ∉ t.instances, lastPeer i es = none

theorem lastPeer_concat (i : ℕ) (es : List TransportEvent) (e : TransportEvent) :
    lastPeer i (es ++ [e])
      = (notedPeer i (Runs.run TransportEvent.step es {}, e)).or (lastPeer i es) := by
  rw [lastPeer, Runs.steps_append, List.filterMap_append, List.getLast?_append, lastPeer]
  cases h : notedPeer i (Runs.run TransportEvent.step es {}, e) with
  | none => rw [Runs.steps, Runs.steps, List.filterMap_cons_none h]; rfl
  | some peer => rw [Runs.steps, Runs.steps, List.filterMap_cons_some h]; rfl

/-- The Network Ports of the table stay. -/
theorem TransportEvent.instances_subset {t : Transport} (h : t.WellFormed) (e : TransportEvent) :
    t.instances ⊆ (e.step t).instances := by
  cases e with
  | setupUdp port i binds =>
    rw [TransportEvent.step]
    obtain ⟨-, heq⟩ | ⟨entries, j, -, -, -, hentries, heq⟩ := t.setupUdp_cases port i binds
    · rw [heq]
      exact List.Subset.refl _
    · rw [heq, Transport.instances, Transport.instances, map_networkPortInstance_modify _ _
        fun entry => entry.networkPortInstance_connect port binds]
      obtain rfl | ⟨-, -, rfl⟩ := hentries
      · exact List.Subset.refl _
      · rw [List.map_append]
        exact List.subset_append_left _ _
  | setNetworkPortInstance i => exact List.Subset.refl _
  | shutdownUdp =>
    intro i hi
    obtain ⟨entry, hentry, rfl⟩ := List.mem_map.mp hi
    refine List.mem_map.mpr ⟨_, List.mem_map_of_mem hentry, ?_⟩
    split <;> rfl
  | arrive k d =>
    rw [TransportEvent.instances_arrive]
    exact List.Subset.refl _
  | receive m c =>
    intro i hi
    obtain ⟨entry, hentry, rfl⟩ := List.mem_map.mp hi
    have hturn : ∃ e ∈ (t.turn m).2.1, e.binding = entry.binding :=
      List.mem_map.mp ((t.binding_turn m h).symm ▸ List.mem_map_of_mem hentry)
    obtain ⟨e, he, hbinding⟩ := hturn
    rw [TransportEvent.step]
    obtain ⟨-, heq⟩ | ⟨-, heq⟩ | ⟨j, served, d, -, -, -, -, -, -, -, heq⟩ :=
      t.helperReceiveMessage_cases m c h
    · rw [heq]
      exact hi
    · rw [heq]
      exact List.mem_map.mpr ⟨e, he, by rw [hbinding]⟩
    · rw [heq]
      exact List.mem_map.mpr ⟨_, List.mem_map_of_mem he, by
        rw [e.networkPortInstance_notePeer, hbinding]⟩

/-- **The peers after any run.** -/
theorem Transport.peersOf_run (es : List TransportEvent) :
    (Runs.run TransportEvent.step es {}).PeersOf es := by
  induction es using List.reverseRecOn with
  | nil => exact ⟨by rintro _ ⟨⟩, fun _ _ => rfl⟩
  | append_singleton es e ih =>
    have h := Transport.wellFormed_run es
    rw [Runs.run_concat]
    constructor
    · intro entry' hentry'
      rw [lastPeer_concat]
      obtain ⟨entry, hentry, hinst, hpeer⟩ | ⟨hnew, hpeer⟩ := e.peer_step h hentry'
      · rw [hpeer, ih.peer_eq entry hentry, hinst]
      · rw [hpeer, ih.new _ hnew, notedPeer_of_not_mem hnew]
        rfl
    · intro i hi
      have hi' : i ∉ (Runs.run TransportEvent.step es {}).instances := fun hmem =>
        hi (e.instances_subset h hmem)
      rw [lastPeer_concat, ih.new i hi', notedPeer_of_not_mem hi']
      rfl

/-- **A frame without a connection string goes to the subnet, and a broadcast that the stack chose
to the last peer as well.**  The peer is the one that the whole run gives the Network Port, through
every setup and shutdown; without one the frame is sent once. -/
theorem stringless_frame_reaches_last_peer (es : List TransportEvent) (host : HostNetwork)
    (message : List UInt8) (hlen : message.length ≤ 65535) (broadcast : Bool) {i : ℕ}
    {binding : UdpBinding}
    (hfind : findUdpBindingByInstance (Runs.run TransportEvent.step es {}).bindings i
      = some binding)
    (hbound : binding.bound = true) :
    ∃ chosen, isStackChosenBroadcast message = some chosen
      ∧ helperSendMessage host (Runs.run TransportEvent.step es {}).bindings message [] i broadcast
        = some (host.send ⟨host.localBroadcast, binding.port, message⟩,
          ⟨host.localBroadcast, binding.port, message⟩ ::
            if chosen then
              (lastPeer i es).toList.map fun peer => ⟨peer.1, peer.2, message⟩
            else []) := by
  obtain ⟨chosen, hchosen, -⟩ := yields_isStackChosenBroadcast hlen
  have hinst : binding.networkPortInstance = i := by
    have := List.find?_some hfind
    rwa [decide_eq_true_eq] at this
  have hpeer : binding.peer = lastPeer i es := by
    obtain ⟨entry, hentry, rfl⟩ := List.mem_map.mp (List.mem_of_find?_eq_some hfind)
    rw [(Transport.peersOf_run es).peer_eq entry hentry, hinst]
  refine ⟨chosen, hchosen, ?_⟩
  rw [helperSendMessage, hfind]
  simp only [hbound, not_true_eq_false, if_false, HostNetwork.destination, List.isEmpty_nil,
    true_and, hchosen]
  rw [← hpeer, UdpBinding.peer]
  cases binding.hasPeer <;> cases chosen <;> rfl

/-- The I-Am of `SendIAm` names the subnet itself, so it goes there once and to no peer: in every
reachable state, also where the subnet broadcast is the host's own address. -/
theorem iAm_reaches_subnet_once (es : List TransportEvent) (host : HostNetwork)
    (message : List UInt8) {i : ℕ} {binding : UdpBinding}
    (hfind : findUdpBindingByInstance (Runs.run TransportEvent.step es {}).bindings i
      = some binding)
    (hbound : binding.bound = true) :
    helperSendMessage host (Runs.run TransportEvent.step es {}).bindings message
        ((Runs.run TransportEvent.step es {}).sendIAm host i) i true
      = some (host.send ⟨host.localBroadcast, binding.port, message⟩,
        [⟨host.localBroadcast, binding.port, message⟩]) := by
  obtain ⟨entry, hentry, rfl⟩ := List.mem_map.mp (List.mem_of_find?_eq_some hfind)
  have hport : (UInt16.ofNat entry.binding.port).toNat = entry.binding.port :=
    UInt16.toNat_ofNat_of_lt' ((Transport.wellFormed_run es).port_lt entry hentry)
  have hdestination : host.destination entry.binding
      (connectionString host.localBroadcast (.ofNat entry.binding.port)) true
        = some (host.localBroadcast, entry.binding.port) := by
    rw [connectionString, HostNetwork.destination]
    simp only [port_octets, hport]
    split <;> rfl
  rw [helperSendMessage, Transport.sendIAm, hfind]
  simp only [hbound, not_true_eq_false, if_false, if_true, hdestination]
  rfl

/-! ## Replies -/

/-- What is on a socket after a step was on it, or arrived. -/
theorem TransportEvent.queue_step {t : Transport} (h : t.WellFormed) (e : TransportEvent) {j : ℕ}
    {entry' : UdpEntry} (hj : (e.step t).udpBindings[j]? = some entry') {d : ReceivedDatagram}
    (hd : d ∈ entry'.udp.queue) :
    (∃ entry, t.udpBindings[j]? = some entry ∧ d ∈ entry.udp.queue) ∨ e = .arrive j d := by
  cases e with
  | setupUdp port i binds =>
    left
    rw [TransportEvent.step] at hj
    obtain ⟨-, heq⟩ | ⟨entries, k, -, -, -, hentries, heq⟩ := t.setupUdp_cases port i binds
    · rw [heq] at hj
      exact ⟨entry', hj, hd⟩
    · rw [heq, List.getElem?_modify] at hj
      obtain ⟨entry, hentry, rfl⟩ := Option.map_eq_some_iff.mp hj
      by_cases hk : k = j
      · rw [if_pos hk] at hd
        cases hd
      · rw [if_neg hk] at hd
        obtain rfl | ⟨-, -, rfl⟩ := hentries
        · exact ⟨entry, hentry, hd⟩
        · rw [List.getElem?_append] at hentry
          split at hentry
          · exact ⟨entry, hentry, hd⟩
          · obtain rfl := List.mem_singleton.mp (List.mem_of_getElem? hentry)
            cases hd
  | setNetworkPortInstance i => exact Or.inl ⟨entry', hj, hd⟩
  | shutdownUdp =>
    left
    rw [TransportEvent.step, Transport.shutdownUdp, List.getElem?_map] at hj
    obtain ⟨entry, hentry, rfl⟩ := Option.map_eq_some_iff.mp hj
    split at hd
    · cases hd
    · exact ⟨entry, hentry, hd⟩
  | arrive k d' =>
    rw [TransportEvent.step, List.getElem?_modify] at hj
    obtain ⟨entry, hentry, rfl⟩ := Option.map_eq_some_iff.mp hj
    by_cases hk : k = j
    · rw [if_pos hk, SimpleUdp.enqueue] at hd
      split at hd
      · rcases List.mem_append.mp hd with hd | hd
        · exact Or.inl ⟨entry, hentry, hd⟩
        · right
          rw [hk, List.mem_singleton.mp hd]
      · exact Or.inl ⟨entry, hentry, hd⟩
    · rw [if_neg hk] at hd
      exact Or.inl ⟨entry, hentry, hd⟩
  | receive m c =>
    left
    -- a turn leaves the socket or takes its first datagram
    have hturn : ∀ {e : UdpEntry}, (t.turn m).2.1[j]? = some e → d ∈ e.udp.queue →
        ∃ entry, t.udpBindings[j]? = some entry ∧ d ∈ entry.udp.queue := by
      intro e he hmem
      have hlt : j < t.udpBindings.length := by
        rw [← t.length_turn m]
        exact (List.getElem?_eq_some_iff.mp he).1
      have hentry := List.getElem?_eq_getElem hlt
      refine ⟨_, hentry, ?_⟩
      rcases t.turn_entry (m := m) h hentry with hsame | hpolled
      · obtain rfl := Option.some.inj (hsame.symm.trans he)
        exact hmem
      · obtain rfl := Option.some.inj (hpolled.symm.trans he)
        exact UdpEntry.queue_poll_subset m _ hmem
    rw [TransportEvent.step] at hj
    obtain ⟨-, heq⟩ | ⟨-, heq⟩ | ⟨-, served, d', -, -, -, -, -, -, -, heq⟩ :=
      t.helperReceiveMessage_cases m c h
    · rw [heq] at hj
      exact ⟨entry', hj, hd⟩
    · rw [heq] at hj
      exact hturn hj hd
    · rw [heq, List.getElem?_map] at hj
      obtain ⟨e, he, rfl⟩ := Option.map_eq_some_iff.mp hj
      rw [UdpEntry.udp_notePeer] at hd
      exact hturn he hd

/-- Everything on a socket has arrived there. -/
theorem Transport.arrived_run (es : List TransportEvent) {j : ℕ} {entry : UdpEntry}
    (hj : (Runs.run TransportEvent.step es {}).udpBindings[j]? = some entry)
    {d : ReceivedDatagram} (hd : d ∈ entry.udp.queue) : .arrive j d ∈ es := by
  induction es using List.reverseRecOn generalizing entry with
  | nil => cases hj
  | append_singleton es e ih =>
    rw [Runs.run_concat] at hj
    rcases e.queue_step (Transport.wellFormed_run es) hj hd with ⟨entry₀, hj₀, hd₀⟩ | rfl
    · exact List.mem_append_left _ (ih hj₀ hd₀)
    · exact List.mem_append_right _ List.mem_cons_self

/-- What a run hands over arrived before. -/
theorem exists_arrive_of_mem_receptions {es : List TransportEvent} {i : ℕ} {reception : Reception}
    (h : reception ∈ receptions i es {}) :
    ∃ j d m, .arrive j d ∈ es ∧ reception = d.reception m i ∧ reception.message ≠ [] := by
  obtain ⟨⟨t, e⟩, hstep, hgiven⟩ := List.mem_flatMap.mp h
  obtain ⟨hgiven, hinst⟩ := List.mem_filter.mp hgiven
  obtain ⟨es₁, es₂, rfl, rfl⟩ := (Runs.mem_steps_iff _).mp hstep
  rw [Option.mem_toList] at hgiven
  cases e with
  | receive m c =>
    rw [TransportEvent.reception] at hgiven
    obtain ⟨-, heq⟩ | ⟨-, heq⟩ | ⟨j, entry, d, queue, hj, -, -, hqueue, hdata, -, heq⟩ :=
      Transport.helperReceiveMessage_cases _ m c (Transport.wellFormed_run es₁)
    · rw [heq] at hgiven
      cases hgiven
    · rw [heq] at hgiven
      cases hgiven
    · rw [heq] at hgiven
      obtain rfl := Option.some.inj hgiven
      refine ⟨j, d, m, List.mem_append_left _ (Transport.arrived_run es₁ hj ?_), ?_, hdata⟩
      · rw [hqueue]
        exact List.mem_cons_self
      · rw [show entry.binding.networkPortInstance = i from of_decide_eq_true hinst]
  | setupUdp => cases hgiven
  | setNetworkPortInstance => cases hgiven
  | shutdownUdp => cases hgiven
  | arrive => cases hgiven

/-- Two devices on other UDP ports: the peer, and one whose datagram is only queued. -/
def twoPeersRun : List TransportEvent :=
  [.setupUdp 47808 1 true, .arrive 0 ⟨⟨10, 0, 0, 7⟩, 50000, [7]⟩,
    .arrive 0 ⟨⟨10, 0, 0, 9⟩, 50001, [9]⟩, .receive 500 6]

/-- The I-Am without a connection string goes to the subnet and to the first. -/
theorem stringless_frame_reaches_last_peer_iAm :
    helperSendMessage ⟨none, fun d => d.data.length⟩
        (Runs.run TransportEvent.step twoPeersRun {}).bindings
        [0x81, 0x0B, 0, 8, 1, 0x00, 0x10, 0x00] [] 1 true
      = some (8, [⟨⟨255, 255, 255, 255⟩, 47808, [0x81, 0x0B, 0, 8, 1, 0x00, 0x10, 0x00]⟩,
        ⟨⟨10, 0, 0, 7⟩, 50000, [0x81, 0x0B, 0, 8, 1, 0x00, 0x10, 0x00]⟩]) := by
  obtain ⟨chosen, hchosen, hsent⟩ := stringless_frame_reaches_last_peer twoPeersRun
    ⟨none, fun d => d.data.length⟩ [0x81, 0x0B, 0, 8, 1, 0x00, 0x10, 0x00] (by decide) true
    (show findUdpBindingByInstance _ 1 = some ⟨47808, 1, true, ⟨10, 0, 0, 7⟩, 50000, true⟩ by decide)
    rfl
  obtain rfl : chosen = true := Option.some.inj (hchosen.symm.trans (by decide))
  exact hsent

end Controller
