import ElevatorController.Model.Transport

/-!
# Transport/Bindings — the table of sockets keeps its form

Every event of the transport keeps `Transport.WellFormed`: at most four entries, no two for one
Network Port, and a cursor in the table.  A turn of the receive loop changes no binding, so what
`HelperReceiveMessage` does to a binding is what noting the peer does.
-/

namespace Controller

/-- The Network Ports that have an entry, in order. -/
def Transport.instances (t : Transport) : List ℕ :=
  t.udpBindings.map fun entry => entry.binding.networkPortInstance

/-- What every event keeps. -/
structure Transport.WellFormed (t : Transport) : Prop where
  length_le : t.udpBindings.length ≤ maxUdpBindings
  nodup : t.instances.Nodup
  cursor_lt : t.nextBindingToCheck < max 1 t.udpBindings.length
  port_lt : ∀ entry ∈ t.udpBindings, entry.binding.port < 2 ^ 16

/-! ## What the operations do to an entry -/

section Entry

variable (m : ℕ) (entry : UdpEntry)

@[simp] theorem UdpEntry.binding_poll : (entry.poll m).2.binding = entry.binding := by
  rw [UdpEntry.poll]
  split <;> rfl

@[simp] theorem UdpEntry.networkPortInstance_notePeer (i : ℕ) (datagram : ReceivedDatagram) :
    (entry.notePeer i datagram).binding.networkPortInstance
      = entry.binding.networkPortInstance := by
  rw [UdpEntry.notePeer]
  split <;> rfl

@[simp] theorem UdpEntry.port_notePeer (i : ℕ) (datagram : ReceivedDatagram) :
    (entry.notePeer i datagram).binding.port = entry.binding.port := by
  rw [UdpEntry.notePeer]
  split <;> rfl

@[simp] theorem UdpEntry.bound_notePeer (i : ℕ) (datagram : ReceivedDatagram) :
    (entry.notePeer i datagram).binding.bound = entry.binding.bound := by
  rw [UdpEntry.notePeer]
  split <;> rfl

@[simp] theorem UdpEntry.udp_notePeer (i : ℕ) (datagram : ReceivedDatagram) :
    (entry.notePeer i datagram).udp = entry.udp := by
  rw [UdpEntry.notePeer]
  split <;> rfl

@[simp] theorem UdpEntry.networkPortInstance_connect (port : UInt16) (binds : Bool) :
    (entry.connect port binds).binding.networkPortInstance
      = entry.binding.networkPortInstance := by
  cases binds <;> rfl

theorem UdpEntry.port_connect_lt (port : UInt16) (binds : Bool)
    (h : entry.binding.port < 2 ^ 16) : (entry.connect port binds).binding.port < 2 ^ 16 := by
  cases binds
  · exact h
  · exact port.toNat_lt

/-- A poll that gives something gives it for its own Network Port. -/
theorem UdpEntry.poll_eq_some {m : ℕ} {entry : UdpEntry} {i : ℕ} {datagram : ReceivedDatagram}
    (h : (entry.poll m).1 = some (i, datagram)) :
    entry.binding.bound = true ∧ entry.udp.connected = true
      ∧ i = entry.binding.networkPortInstance
      ∧ ∃ d queue, entry.udp.queue = d :: queue ∧ d.data.take m ≠ []
        ∧ datagram = { d with data := d.data.take m } := by
  rw [UdpEntry.poll] at h
  split at h
  · rename_i hbound
    obtain ⟨d', hd', hpair⟩ := Option.map_eq_some_iff.mp h
    obtain ⟨rfl, rfl⟩ := Prod.mk.inj hpair
    rw [SimpleUdp.receive] at hd'
    split at hd'
    · rename_i hconnected
      split at hd'
      · cases hd'
      · rename_i d queue hqueue
        simp only [Option.ite_none_right_eq_some, Option.some.injEq] at hd'
        obtain ⟨hlen, rfl⟩ := hd'
        exact ⟨hbound, hconnected, rfl, d, queue, hqueue, List.ne_nil_of_length_pos hlen, rfl⟩
    · cases hd'
  · cases h

/-- What a poll does to a socket with a datagram on it. -/
theorem UdpEntry.poll_cons {m : ℕ} {entry : UdpEntry} {d : ReceivedDatagram}
    {queue : List ReceivedDatagram} (hbound : entry.binding.bound = true)
    (hconnected : entry.udp.connected = true) (hqueue : entry.udp.queue = d :: queue) :
    entry.poll m = (if (d.data.take m).length > 0 then
        some (entry.binding.networkPortInstance, { d with data := d.data.take m }) else none,
      { entry with udp := { entry.udp with queue } }) := by
  rw [UdpEntry.poll, if_pos hbound, SimpleUdp.receive, if_pos hconnected, hqueue]
  simp only [apply_ite (Option.map _), Option.map_some, Option.map_none]

/-- A poll of an empty socket. -/
theorem UdpEntry.poll_nil {m : ℕ} {entry : UdpEntry} (hqueue : entry.udp.queue = []) :
    entry.poll m = (none, entry) := by
  rw [UdpEntry.poll, SimpleUdp.receive, hqueue]
  split_ifs <;> rfl

/-- A poll puts nothing on a socket. -/
theorem UdpEntry.queue_poll_subset : (entry.poll m).2.udp.queue ⊆ entry.udp.queue := by
  cases hqueue : entry.udp.queue with
  | nil =>
    rw [UdpEntry.poll_nil hqueue, hqueue]
    exact List.Subset.refl _
  | cons d queue =>
    rw [UdpEntry.poll, SimpleUdp.receive]
    split_ifs
    · rw [hqueue]
      exact List.subset_cons_self d queue
    · exact hqueue ▸ List.Subset.refl _
    · exact hqueue ▸ List.Subset.refl _

end Entry

/-! ## What the events do to the table -/

section Table

variable (t : Transport)

/-- The turn that `HelperReceiveMessage` takes, in a table that has entries. -/
def Transport.turn (m : ℕ) : Option (ℕ × ℕ × ReceivedDatagram) × List UdpEntry × ℕ :=
  RoundRobin.turn (UdpEntry.poll m) t.udpBindings t.nextBindingToCheck

theorem Transport.length_turn (m : ℕ) : (t.turn m).2.1.length = t.udpBindings.length :=
  RoundRobin.length_turn (UdpEntry.poll m) _ _

/-- A turn leaves every entry or polls it. -/
theorem Transport.turn_entry {m j : ℕ} {entry : UdpEntry} (h : t.WellFormed)
    (hj : t.udpBindings[j]? = some entry) :
    (t.turn m).2.1[j]? = some entry ∨ (t.turn m).2.1[j]? = some (entry.poll m).2 := by
  have hlt : j < t.udpBindings.length := (List.getElem?_eq_some_iff.mp hj).1
  have hcursor : t.nextBindingToCheck < t.udpBindings.length := by
    have := h.cursor_lt
    omega
  rcases RoundRobin.turn_cases (UdpEntry.poll m) hcursor hj with ⟨hpolled, -⟩ | ⟨hstay, -⟩
  · exact Or.inr hpolled
  · exact Or.inl hstay

/-- A turn changes no binding. -/
theorem Transport.binding_turn (m : ℕ) (h : t.WellFormed) :
    (t.turn m).2.1.map UdpEntry.binding = t.bindings := by
  refine List.ext_getElem? fun j => ?_
  rw [Transport.bindings, List.getElem?_map, List.getElem?_map]
  cases hj : t.udpBindings[j]? with
  | none =>
    rw [List.getElem?_eq_none_iff, ← t.length_turn m] at hj
    rw [List.getElem?_eq_none hj]
  | some entry =>
    rcases t.turn_entry (m := m) h hj with hentry | hentry
    · rw [hentry]
    · rw [hentry, Option.map_some, Option.map_some, UdpEntry.binding_poll]

/-- What `HelperReceiveMessage` hands over for the datagram at the head of the socket of a Network
Port. -/
def ReceivedDatagram.reception (m i : ℕ) (datagram : ReceivedDatagram) : Reception where
  message := datagram.data.take m
  sourceConnectionString := connectionString datagram.fromIp datagram.fromPort
  networkPortInstance := i

/-- **All that `HelperReceiveMessage` does**: nothing, a turn that gives nothing, or a turn that
gives the datagram at the head of a socket and notes the peer. -/
theorem Transport.helperReceiveMessage_cases (m c : ℕ) (h : t.WellFormed) :
    ((c < 6 ∨ t.udpBindings.length = 0) ∧ t.helperReceiveMessage m c = (none, t))
      ∨ ((t.turn m).1 = none
        ∧ t.helperReceiveMessage m c
          = (none, { t with
              udpBindings := (t.turn m).2.1
              nextBindingToCheck := (t.turn m).2.2 }))
      ∨ ∃ j entry d queue, t.udpBindings[j]? = some entry ∧ entry.binding.bound = true
        ∧ entry.udp.connected = true ∧ entry.udp.queue = d :: queue ∧ d.data.take m ≠ []
        ∧ (t.turn m).1 = some (j, entry.binding.networkPortInstance,
            { d with data := d.data.take m })
        ∧ t.helperReceiveMessage m c
          = (some (d.reception m entry.binding.networkPortInstance), { t with
              udpBindings := (t.turn m).2.1.map (UdpEntry.notePeer
                entry.binding.networkPortInstance { d with data := d.data.take m })
              nextBindingToCheck := (t.turn m).2.2 }) := by
  rw [Transport.helperReceiveMessage]
  by_cases hrefused : c < 6 ∨ t.udpBindings.length = 0
  · exact Or.inl ⟨hrefused, if_pos hrefused⟩
  · rw [if_neg hrefused]
    refine Or.inr ?_
    rw [← Transport.turn]
    have hcursor : t.nextBindingToCheck < t.udpBindings.length := by
      have := h.cursor_lt
      omega
    rcases hturn : t.turn m with ⟨_ | ⟨j, i, datagram⟩, entries, next⟩
    · exact Or.inl ⟨rfl, rfl⟩
    · right
      obtain ⟨entry, hj, hpoll⟩ := RoundRobin.turn_eq_some (UdpEntry.poll m) hcursor
        (congrArg Prod.fst hturn)
      obtain ⟨hbound, hconnected, rfl, d, queue, hqueue, hdata, rfl⟩ :=
        UdpEntry.poll_eq_some hpoll
      exact ⟨j, entry, d, queue, hj, hbound, hconnected, hqueue, hdata, rfl, rfl⟩

/-- **All that `SetupUDP` does**: nothing, in a full table that has no entry for the Network Port, or
a `Connect` of its entry, which is appended if there is none. -/
theorem Transport.setupUdp_cases (port : UInt16) (i : ℕ) (binds : Bool) :
    (i ∉ t.instances ∧ t.setupUdp port i binds = (false, t))
      ∨ ∃ entries j entry, entries[j]? = some entry ∧ entry.binding.networkPortInstance = i
        ∧ (entries = t.udpBindings
          ∨ i ∉ t.instances ∧ t.udpBindings.length < maxUdpBindings
            ∧ entries = t.udpBindings ++ [.unbound i])
        ∧ t.setupUdp port i binds
          = (binds, { t with
              udpBindings := entries.modify j (.connect port binds)
              port := if binds ∧ i = t.networkPortInstance then port.toNat else t.port }) := by
  rw [Transport.setupUdp]
  cases hfind : t.udpBindings.findIdx? fun entry =>
      decide (entry.binding.networkPortInstance = i) with
  | some j =>
    obtain ⟨hj, hentry, -⟩ := List.findIdx?_eq_some_iff_getElem.mp hfind
    exact Or.inr ⟨_, j, _, List.getElem?_eq_getElem hj, of_decide_eq_true hentry, Or.inl rfl, rfl⟩
  | none =>
    have hnew : i ∉ t.instances := fun hmem => by
      obtain ⟨entry, hentry, rfl⟩ := List.mem_map.mp hmem
      exact of_decide_eq_false (List.findIdx?_eq_none_iff.mp hfind entry hentry) rfl
    by_cases hfull : t.udpBindings.length ≥ maxUdpBindings
    · exact Or.inl ⟨hnew, if_pos hfull⟩
    · exact Or.inr ⟨_, t.udpBindings.length, .unbound i, List.getElem?_concat_length, rfl,
        Or.inr ⟨hnew, not_le.mp hfull, rfl⟩, if_neg hfull⟩

end Table

/-! ## The invariant -/

/-- An element of a list after one was modified. -/
theorem mem_modify {α : Type} {f : α → α} {a : α} {xs : List α} {j : ℕ}
    (h : a ∈ xs.modify j f) : ∃ b ∈ xs, a = b ∨ a = f b := by
  obtain ⟨k, hk⟩ := List.mem_iff_getElem?.mp h
  rw [List.getElem?_modify] at hk
  obtain ⟨b, hb, rfl⟩ := Option.map_eq_some_iff.mp hk
  refine ⟨b, List.mem_of_getElem? hb, ?_⟩
  split
  · exact Or.inr rfl
  · exact Or.inl rfl

/-- Modifying an entry in a way that keeps its Network Port keeps them all. -/
theorem map_networkPortInstance_modify {f : UdpEntry → UdpEntry} (xs : List UdpEntry) (j : ℕ)
    (hf : ∀ entry, (f entry).binding.networkPortInstance = entry.binding.networkPortInstance) :
    (xs.modify j f).map (fun entry => entry.binding.networkPortInstance)
      = xs.map fun entry => entry.binding.networkPortInstance := by
  refine List.ext_getElem? fun k => ?_
  rw [List.getElem?_map, List.getElem?_map, List.getElem?_modify]
  cases xs[k]? with
  | none => rfl
  | some entry =>
    split
    · exact congrArg some (hf entry)
    · rfl

/-- A datagram that arrives changes no binding. -/
theorem TransportEvent.instances_arrive (t : Transport) (k : ℕ) (d : ReceivedDatagram) :
    (TransportEvent.step t (.arrive k d)).instances = t.instances :=
  map_networkPortInstance_modify _ _ fun _ => rfl

theorem Transport.wellFormed_initial : ({} : Transport).WellFormed where
  length_le := Nat.zero_le _
  nodup := List.nodup_nil
  cursor_lt := Nat.one_pos
  port_lt := by rintro _ ⟨⟩

section Invariant

variable {t : Transport} (h : t.WellFormed)
include h

theorem Transport.WellFormed.setupUdp (port : UInt16) (i : ℕ) (binds : Bool) :
    (t.setupUdp port i binds).2.WellFormed := by
  obtain ⟨-, heq⟩ | ⟨entries, j, entry, -, -, hentries, heq⟩ := t.setupUdp_cases port i binds
  · rwa [heq]
  · rw [heq]
    have hmap := map_networkPortInstance_modify entries j (f := .connect port binds) fun entry =>
      entry.networkPortInstance_connect port binds
    have hport : (∀ entry ∈ entries, entry.binding.port < 2 ^ 16) →
        ∀ entry ∈ entries.modify j (.connect port binds), entry.binding.port < 2 ^ 16 := by
      intro hall entry hentry
      obtain ⟨e, he, rfl | rfl⟩ := mem_modify hentry
      · exact hall _ he
      · exact e.port_connect_lt port binds (hall e he)
    obtain rfl | ⟨hnew, hroom, rfl⟩ := hentries
    · refine ⟨?_, ?_, ?_, hport h.port_lt⟩
      · rw [List.length_modify]
        exact h.length_le
      · rw [Transport.instances, hmap]
        exact h.nodup
      · rw [List.length_modify]
        exact h.cursor_lt
    · refine ⟨?_, ?_, ?_, hport ?_⟩
      · rw [List.length_modify, List.length_append, List.length_singleton]
        exact hroom
      · rw [Transport.instances, hmap, List.map_append]
        refine List.nodup_append.mpr ⟨h.nodup, List.nodup_singleton _, fun a ha b hb hab => ?_⟩
        have hai : a = i := hab.trans (List.mem_singleton.mp hb)
        exact hnew (hai ▸ ha)
      · rw [List.length_modify, List.length_append, List.length_singleton]
        have := h.cursor_lt
        simp only at this ⊢
        omega
      · intro entry hentry
        rcases List.mem_append.mp hentry with hentry | hentry
        · exact h.port_lt entry hentry
        · rw [List.mem_singleton.mp hentry]
          exact Nat.two_pow_pos 16

theorem Transport.WellFormed.shutdownUdp : t.shutdownUdp.WellFormed := by
  refine ⟨?_, ?_, ?_, ?_⟩
  · rw [Transport.shutdownUdp, List.length_map]
    exact h.length_le
  · have hmap : t.shutdownUdp.instances = t.instances := by
      rw [Transport.instances, Transport.instances, Transport.shutdownUdp, List.map_map]
      refine List.map_congr_left fun entry _ => ?_
      rw [Function.comp_apply]
      split <;> rfl
    rw [hmap]
    exact h.nodup
  · rw [Transport.shutdownUdp, List.length_map]
    exact h.cursor_lt
  · intro entry hentry
    obtain ⟨e, he, rfl⟩ := List.mem_map.mp hentry
    split
    · exact h.port_lt e he
    · exact h.port_lt e he

/-- A turn, and a change of the entries that keeps Network Ports and UDP ports. -/
theorem Transport.WellFormed.turn (m : ℕ) (hne : 0 < t.udpBindings.length)
    {f : UdpEntry → UdpEntry}
    (hinst : ∀ e, (f e).binding.networkPortInstance = e.binding.networkPortInstance)
    (hport : ∀ e, (f e).binding.port = e.binding.port) :
    { t with
      udpBindings := (t.turn m).2.1.map f
      nextBindingToCheck := (t.turn m).2.2 : Transport }.WellFormed := by
  have hbinding := t.binding_turn m h
  refine ⟨?_, ?_, ?_, ?_⟩
  · rw [List.length_map, t.length_turn]
    exact h.length_le
  · have hmap : ((t.turn m).2.1.map f).map (fun e => e.binding.networkPortInstance)
        = t.instances :=
      calc ((t.turn m).2.1.map f).map (fun e => e.binding.networkPortInstance)
          = (t.turn m).2.1.map (fun e => e.binding.networkPortInstance) := by
            rw [List.map_map]
            exact List.map_congr_left fun e _ => hinst e
        _ = ((t.turn m).2.1.map UdpEntry.binding).map UdpBinding.networkPortInstance := by
            rw [List.map_map]
            rfl
        _ = t.instances := by
            rw [hbinding, Transport.bindings, List.map_map]
            rfl
    rw [Transport.instances, hmap]
    exact h.nodup
  · rw [List.length_map, t.length_turn]
    exact lt_max_of_lt_right (RoundRobin.cursor_turn_lt (UdpEntry.poll m) hne _)
  · intro entry hentry
    obtain ⟨e, he, rfl⟩ := List.mem_map.mp hentry
    rw [hport]
    have hmem : e.binding ∈ t.bindings := hbinding ▸ List.mem_map_of_mem he
    obtain ⟨e', he', heq⟩ := List.mem_map.mp hmem
    exact heq ▸ h.port_lt e' he'

theorem Transport.WellFormed.helperReceiveMessage (m c : ℕ) :
    (t.helperReceiveMessage m c).2.WellFormed := by
  by_cases hne : 0 < t.udpBindings.length
  · obtain ⟨-, heq⟩ | ⟨-, heq⟩ | ⟨j, entry, d, queue, -, -, -, -, -, -, heq⟩ :=
      t.helperReceiveMessage_cases m c h
    · rwa [heq]
    · rw [heq, ← List.map_id (t.turn m).2.1]
      exact h.turn m hne (fun _ => rfl) fun _ => rfl
    · rw [heq]
      exact h.turn m hne (fun e => e.networkPortInstance_notePeer _ _) fun e =>
        e.port_notePeer _ _
  · rw [Transport.helperReceiveMessage, if_pos (Or.inr (Nat.eq_zero_of_not_pos hne))]
    exact h

/-- **Every event keeps the table well formed.** -/
theorem Transport.WellFormed.step (e : TransportEvent) : (e.step t).WellFormed := by
  cases e with
  | setupUdp port i binds => exact h.setupUdp port i binds
  | setNetworkPortInstance i => exact ⟨h.length_le, h.nodup, h.cursor_lt, h.port_lt⟩
  | shutdownUdp => exact h.shutdownUdp
  | arrive i d =>
    refine ⟨?_, ?_, ?_, fun entry hentry => ?_⟩
    · rw [TransportEvent.step, List.length_modify]
      exact h.length_le
    · rw [TransportEvent.instances_arrive]
      exact h.nodup
    · rw [TransportEvent.step, List.length_modify]
      exact h.cursor_lt
    · obtain ⟨e, he, rfl | rfl⟩ := mem_modify hentry
      · exact h.port_lt _ he
      · exact h.port_lt e he
  | receive m c => exact h.helperReceiveMessage m c

end Invariant

/-- The transport after any run from start-up. -/
theorem Transport.wellFormed_run (es : List TransportEvent) :
    (Runs.run TransportEvent.step es {}).WellFormed :=
  Runs.run_invariant (P := Transport.WellFormed) (fun _ e h => h.step e) es
    Transport.wellFormed_initial

end Controller
