import ElevatorController.Transport.Bindings

/-!
# Transport/Receive — no socket starves, and none loses or repeats a datagram

    socket j   d₀ d₁ d₂ …         in at most (number of sockets) · (k + 1) receives, dₖ is handed over

While datagrams arrive and the stack receives, each socket is a queue: its datagrams are taken in
order, each once, and handed over cut to the stack's buffer.  One without octets is dropped.  The
measure of `RoundRobin.waiting_turn` bounds the wait, whatever arrives on the other sockets.
-/

namespace Controller

/-- A datagram arrives, or the stack receives with room for an address. -/
def TransportEvent.IsTraffic : TransportEvent → Prop
  | .arrive _ _ => True
  | .receive _ c => 6 ≤ c
  | _ => False

instance : DecidablePred TransportEvent.IsTraffic
  | .arrive _ _ => .isTrue trivial
  | .receive _ c => inferInstanceAs (Decidable (6 ≤ c))
  | .setupUdp _ _ _ => .isFalse id
  | .setNetworkPortInstance _ => .isFalse id
  | .shutdownUdp => .isFalse id

/-- The datagrams an event puts on a socket. -/
def TransportEvent.arrivals (j : ℕ) : TransportEvent → List ReceivedDatagram
  | .arrive i datagram => if i = j then [datagram] else []
  | _ => []

/-- The stack calls the transport. -/
def TransportEvent.isReceive : TransportEvent → Bool
  | .receive _ _ => true
  | _ => false

/-- What an event hands over for one Network Port. -/
def TransportEvent.receptionsOn (i : ℕ) (t : Transport) (e : TransportEvent) : List Reception :=
  (e.reception t).toList.filter fun reception => reception.networkPortInstance = i

/-- What a run hands over for one Network Port. -/
def receptions (i : ℕ) (es : List TransportEvent) (t : Transport) : List Reception :=
  (Runs.steps TransportEvent.step es t).flatMap fun x => x.2.receptionsOn i x.1

/-- What is handed over of a datagram taken from a socket, for a buffer of `m` octets. -/
def handOver (i : ℕ) (taken : ReceivedDatagram × ℕ) : Option Reception :=
  if taken.1.data.take taken.2 = [] then none else some (taken.1.reception taken.2 i)

/-- A socket in use: bound, connected, and for one Network Port. -/
structure UdpEntry.InUse (entry : UdpEntry) (i : ℕ) : Prop where
  bound : entry.binding.bound = true
  connected : entry.udp.connected = true
  networkPortInstance : entry.binding.networkPortInstance = i

/-- Noting a peer leaves a socket in use. -/
theorem UdpEntry.InUse.notePeer {entry : UdpEntry} {i : ℕ} (h : entry.InUse i) (k : ℕ)
    (d : ReceivedDatagram) : (entry.notePeer k d).InUse i where
  bound := by rw [UdpEntry.bound_notePeer, h.bound]
  connected := by rw [UdpEntry.udp_notePeer, h.connected]
  networkPortInstance := by rw [UdpEntry.networkPortInstance_notePeer, h.networkPortInstance]

section Step

variable {t : Transport} (h : t.WellFormed) {i j : ℕ} {entry : UdpEntry}
  (hj : t.udpBindings[j]? = some entry)
include h hj

/-- The entry of a Network Port is the only one. -/
theorem Transport.WellFormed.index_eq {j' : ℕ} {entry' : UdpEntry}
    (hj' : t.udpBindings[j']? = some entry')
    (heq : entry'.binding.networkPortInstance = entry.binding.networkPortInstance) : j' = j := by
  have hget : ∀ {k : ℕ} {e : UdpEntry}, t.udpBindings[k]? = some e →
      t.instances[k]? = some e.binding.networkPortInstance := fun hk => by
    rw [Transport.instances, List.getElem?_map, hk]
    rfl
  exact (List.getElem?_inj (List.getElem?_eq_some_iff.mp (hget hj')).1 h.nodup).mp
    ((hget hj').trans ((congrArg some heq).trans (hget hj).symm))

theorem Transport.WellFormed.cursor : t.nextBindingToCheck < t.udpBindings.length := by
  have := h.cursor_lt
  have := (List.getElem?_eq_some_iff.mp hj).1
  omega

omit h in
/-- A datagram arrives. -/
theorem TransportEvent.arrive_entry (k : ℕ) (d : ReceivedDatagram)
    (hc : entry.udp.connected = true) :
    (TransportEvent.step t (.arrive k d)).udpBindings[j]?
      = some { entry with
          udp := { entry.udp with
            queue := entry.udp.queue ++ TransportEvent.arrivals j (.arrive k d) } } := by
  rw [TransportEvent.step, List.getElem?_modify, hj, TransportEvent.arrivals]
  split
  · simp only [SimpleUdp.enqueue, if_pos hc, Option.map_eq_map, Option.map_some]
  · rw [List.append_nil]
    rfl

omit h hj in
/-- **A poll takes the first datagram**, if there is one, and gives what is handed over of it. -/
theorem UdpEntry.poll_inUse (m : ℕ) (hin : entry.InUse i) :
    (entry.poll m).2.InUse i ∧ (entry.poll m).2.udp.queue = entry.udp.queue.tail
      ∧ (entry.udp.queue.take 1).filterMap (fun d => handOver i (d, m))
        = (entry.poll m).1.toList.map fun x =>
          { message := x.2.data
            sourceConnectionString := connectionString x.2.fromIp x.2.fromPort
            networkPortInstance := x.1 } := by
  cases hqueue : entry.udp.queue with
  | nil =>
    rw [UdpEntry.poll_nil hqueue]
    exact ⟨hin, hqueue, rfl⟩
  | cons d queue =>
    obtain rfl := hin.networkPortInstance
    rw [UdpEntry.poll_cons hin.bound hin.connected hqueue]
    refine ⟨⟨hin.bound, hin.connected, hin.networkPortInstance⟩, rfl, ?_⟩
    rw [List.take_succ_cons, List.take_zero, List.filterMap_cons, handOver]
    by_cases hdata : d.data.take m = []
    · rw [if_pos hdata, if_neg (by rw [hdata]; exact lt_irrefl 0)]
      rfl
    · rw [if_neg hdata, if_pos (List.length_pos_iff.mpr hdata)]
      rfl

/-- **The stack receives**: a socket in use is polled, or it has come nearer. -/
theorem TransportEvent.receive_entry {m c : ℕ} (hc : 6 ≤ c) (hin : entry.InUse i) :
    let t' := TransportEvent.step t (.receive m c)
    let given := TransportEvent.receptionsOn i t (.receive m c)
    t'.udpBindings.length = t.udpBindings.length
      ∧ ∃ entry', t'.udpBindings[j]? = some entry' ∧ entry'.InUse i
        ∧ (entry'.udp.queue = entry.udp.queue.tail
            ∧ given = (entry.udp.queue.take 1).filterMap (fun d => handOver i (d, m))
          ∨ entry'.udp = entry.udp ∧ given = []
            ∧ RoundRobin.offset t.udpBindings.length t'.nextBindingToCheck j
              < RoundRobin.offset t.udpBindings.length t.nextBindingToCheck j) := by
  intro t' given
  obtain ⟨hin', hqueue', hgiven⟩ := entry.poll_inUse m hin
  have hturn := RoundRobin.turn_cases (UdpEntry.poll m) (h.cursor hj) hj
  rw [← Transport.turn] at hturn
  obtain ⟨hrefused, -⟩ | ⟨hnone, heq⟩ | ⟨j₁, e₁, d, queue, hj₁, -, -, -, -, hsome, heq⟩ :=
    t.helperReceiveMessage_cases m c h
  · have := (List.getElem?_eq_some_iff.mp hj).1
    omega
  · have ht' : t' = _ := congrArg Prod.snd heq
    have hempty : given = [] := by
      simp only [given, TransportEvent.receptionsOn, TransportEvent.reception, heq]
      rfl
    rw [ht', hempty]
    refine ⟨t.length_turn m, ?_⟩
    rcases hturn with ⟨hpolled, hiff⟩ | ⟨hstay, -, hnear⟩
    · refine ⟨_, hpolled, hin', Or.inl ⟨hqueue', ?_⟩⟩
      have hpoll : (entry.poll m).1 = none := by
        refine Option.eq_none_iff_forall_ne_some.mpr fun a ha => ?_
        have := (hiff a).mpr ha
        rw [hnone] at this
        cases this
      rw [hgiven, hpoll]
      rfl
    · exact ⟨entry, hstay, hin, Or.inr ⟨rfl, rfl, hnear⟩⟩
  · have ht' : t' = _ := congrArg Prod.snd heq
    have hgiven' : given = [d.reception m e₁.binding.networkPortInstance].filter fun r => r.networkPortInstance = i := by
      simp only [given, TransportEvent.receptionsOn, TransportEvent.reception, heq]
      rfl
    -- the datagram of another socket is for another Network Port
    have hother : j₁ ≠ j → given = [] := fun hne => by
      rw [hgiven', List.filter_cons_of_neg]
      · rfl
      · intro hinst
        refine hne (h.index_eq hj hj₁ ?_)
        rw [hin.networkPortInstance]
        exact of_decide_eq_true hinst
    have hmap : ∀ e, (t.turn m).2.1[j]? = some e →
        t'.udpBindings[j]? = some (e.notePeer e₁.binding.networkPortInstance
          { d with data := d.data.take m }) := fun e he => by
      rw [ht', List.getElem?_map, he]
      rfl
    refine ⟨by rw [ht', List.length_map, t.length_turn], ?_⟩
    rcases hturn with ⟨hpolled, hiff⟩ | ⟨hstay, hnot, hnear⟩
    · refine ⟨_, hmap _ hpolled, hin'.notePeer _ _, Or.inl ⟨?_, ?_⟩⟩
      · rw [UdpEntry.udp_notePeer, hqueue']
      · by_cases hjj : j₁ = j
        · subst hjj
          obtain rfl : e₁ = entry := Option.some.inj (hj₁.symm.trans hj)
          rw [hgiven, (hiff _).mp hsome, hgiven', List.filter_cons_of_pos]
          · rfl
          · exact decide_eq_true hin.networkPortInstance
        · have hpoll : (entry.poll m).1 = none := by
            refine Option.eq_none_iff_forall_ne_some.mpr fun a ha => hjj ?_
            have heq := hsome.symm.trans ((hiff a).mpr ha)
            exact (Prod.mk.inj (Option.some.inj heq)).1
          rw [hother hjj, hgiven, hpoll]
          rfl
    · have hjj : j₁ ≠ j := fun hjj => hnot _ (hjj ▸ hsome)
      refine ⟨_, hmap _ hstay, hin.notePeer _ _, Or.inr ⟨?_, hother hjj, ?_⟩⟩
      · rw [UdpEntry.udp_notePeer]
      · rw [ht']
        exact hnear

end Step

/-! ## Runs -/

/-- A socket after a run of traffic: it is in use, what it held and what arrived are what was taken
and what it holds, in order, and the stack was given what was taken. -/
structure SocketRun (es : List TransportEvent) (t : Transport) (j i : ℕ) (entry entry' : UdpEntry)
    (taken : List (ReceivedDatagram × ℕ)) : Prop where
  after : (Runs.run TransportEvent.step es t).udpBindings[j]? = some entry'
  inUse : entry'.InUse i
  queue_eq : entry.udp.queue ++ es.flatMap (TransportEvent.arrivals j)
    = taken.map Prod.fst ++ entry'.udp.queue
  receptions_eq : receptions i es t = taken.filterMap (handOver i)
  -- the datagram at place `k` is taken once the stack has received this often
  taken_of_lt : ∀ k < entry.udp.queue.length,
    RoundRobin.offset t.udpBindings.length t.nextBindingToCheck j + t.udpBindings.length * k
      < es.countP TransportEvent.isReceive → k < taken.length

section Step

variable {t : Transport} {e : TransportEvent} {es : List TransportEvent} {i j : ℕ}
  {entry entry₁ entry' : UdpEntry} {taken : List (ReceivedDatagram × ℕ)}

theorem receptions_cons :
    receptions i (e :: es) t = e.receptionsOn i t ++ receptions i es (e.step t) := by
  rw [receptions, receptions, Runs.steps, List.flatMap_cons]

/-- A datagram arrives before the run. -/
theorem SocketRun.arrive {k : ℕ} {d : ReceivedDatagram}
    (h : SocketRun es (TransportEvent.step t (.arrive k d)) j i { entry with
      udp := { entry.udp with
        queue := entry.udp.queue ++ TransportEvent.arrivals j (.arrive k d) } } entry' taken) :
    SocketRun (.arrive k d :: es) t j i entry entry' taken where
  after := h.after
  inUse := h.inUse
  queue_eq := by
    rw [List.flatMap_cons, ← List.append_assoc]
    exact h.queue_eq
  receptions_eq := by
    rw [receptions_cons, ← h.receptions_eq]
    rfl
  taken_of_lt := fun place hplace hcount => by
    have hlength : (TransportEvent.step t (.arrive k d)).udpBindings.length
        = t.udpBindings.length := List.length_modify ..
    refine h.taken_of_lt place ?_ ?_
    · rw [List.length_append]
      exact Nat.lt_add_right _ hplace
    · rw [hlength]
      rwa [List.countP_cons_of_neg (by rintro ⟨⟩)] at hcount

/-- The socket is polled before the run. -/
theorem SocketRun.polled {m c : ℕ} (hj : t.udpBindings[j]? = some entry)
    (hlength : (TransportEvent.step t (.receive m c)).udpBindings.length = t.udpBindings.length)
    (hqueue : entry₁.udp.queue = entry.udp.queue.tail)
    (hgiven : TransportEvent.receptionsOn i t (.receive m c)
      = (entry.udp.queue.take 1).filterMap fun d => handOver i (d, m))
    (h : SocketRun es (TransportEvent.step t (.receive m c)) j i entry₁ entry' taken) :
    SocketRun (.receive m c :: es) t j i entry entry'
      ((entry.udp.queue.take 1).map (fun d => (d, m)) ++ taken) where
  after := h.after
  inUse := h.inUse
  queue_eq := by
    have hrest := h.queue_eq
    rw [hqueue] at hrest
    rw [List.map_append, List.map_map, List.append_assoc, ← hrest, ← List.append_assoc]
    have hsplit : (entry.udp.queue.take 1).map (Prod.fst ∘ fun d => (d, m))
        ++ entry.udp.queue.tail = entry.udp.queue := by
      rw [show (Prod.fst ∘ fun d : ReceivedDatagram => (d, m)) = id from rfl, List.map_id,
        ← List.drop_one, List.take_append_drop]
    rw [hsplit]
    rfl
  receptions_eq := by
    rw [receptions_cons, h.receptions_eq, hgiven, List.filterMap_append, List.filterMap_map]
    rfl
  taken_of_lt := fun place hplace hcount => by
    rw [List.countP_cons_of_pos rfl] at hcount
    rw [List.length_append, List.length_map, List.length_take]
    cases place with
    | zero => omega
    | succ place =>
      -- the next poll is at most one round away
      have hoff : RoundRobin.offset t.udpBindings.length
          (TransportEvent.step t (.receive m c)).nextBindingToCheck j < t.udpBindings.length :=
        RoundRobin.offset_lt (List.getElem?_eq_some_iff.mp hj).1
      have := h.taken_of_lt place (by rw [hqueue, List.length_tail]; omega) (by
        rw [hlength]
        rw [Nat.mul_succ] at hcount
        omega)
      omega

/-- The socket comes nearer before the run. -/
theorem SocketRun.nearer {m c : ℕ}
    (hlength : (TransportEvent.step t (.receive m c)).udpBindings.length = t.udpBindings.length)
    (hudp : entry₁.udp = entry.udp) (hgiven : TransportEvent.receptionsOn i t (.receive m c) = [])
    (hnear : RoundRobin.offset t.udpBindings.length
        (TransportEvent.step t (.receive m c)).nextBindingToCheck j
      < RoundRobin.offset t.udpBindings.length t.nextBindingToCheck j)
    (h : SocketRun es (TransportEvent.step t (.receive m c)) j i entry₁ entry' taken) :
    SocketRun (.receive m c :: es) t j i entry entry' taken where
  after := h.after
  inUse := h.inUse
  queue_eq := by
    rw [← h.queue_eq, hudp]
    rfl
  receptions_eq := by
    rw [receptions_cons, hgiven, h.receptions_eq, List.nil_append]
  taken_of_lt := fun place hplace hcount => by
    rw [List.countP_cons_of_pos rfl] at hcount
    refine h.taken_of_lt place (by rwa [hudp]) ?_
    rw [hlength]
    omega

end Step

/-- A socket in use, through a run of traffic. -/
theorem exists_socketRun {i j : ℕ} (es : List TransportEvent) {t : Transport} {entry : UdpEntry}
    (h : t.WellFormed) (hj : t.udpBindings[j]? = some entry) (hin : entry.InUse i)
    (htraffic : ∀ e ∈ es, e.IsTraffic) :
    ∃ entry' taken, SocketRun es t j i entry entry' taken := by
  induction es generalizing t entry with
  | nil =>
    refine ⟨entry, [], hj, hin, ?_, rfl, fun k _ hk => absurd hk (Nat.not_lt_zero _)⟩
    rw [List.flatMap_nil, List.append_nil, List.map_nil, List.nil_append]
  | cons e es ih =>
    have hrest : ∀ e ∈ es, e.IsTraffic := fun e' he' => htraffic e' (List.mem_cons_of_mem e he')
    have hfirst : e.IsTraffic := htraffic e List.mem_cons_self
    cases e with
    | setupUdp => exact hfirst.elim
    | setNetworkPortInstance => exact hfirst.elim
    | shutdownUdp => exact hfirst.elim
    | arrive k d =>
      obtain ⟨entry', taken, hrun⟩ := ih (h.step (.arrive k d))
        (TransportEvent.arrive_entry hj k d hin.connected)
        ⟨hin.bound, hin.connected, hin.networkPortInstance⟩ hrest
      exact ⟨entry', taken, hrun.arrive⟩
    | receive m c =>
      obtain ⟨hlength, entry₁, hj₁, hin₁, hpoll | hnear⟩ :=
        TransportEvent.receive_entry h hj (m := m) hfirst hin
      · obtain ⟨entry', taken, hrun⟩ := ih (h.step (.receive m c)) hj₁ hin₁ hrest
        exact ⟨entry', _, hrun.polled hj hlength hpoll.1 hpoll.2⟩
      · obtain ⟨entry', taken, hrun⟩ := ih (h.step (.receive m c)) hj₁ hin₁ hrest
        exact ⟨entry', taken, hrun.nearer hlength hnear.1 hnear.2.1 hnear.2.2⟩

/-- A second socket that is flooded, and the one datagram of the first. -/
def floodedRun : List TransportEvent :=
  [.arrive 1 ⟨⟨10, 0, 0, 9⟩, 47808, [1]⟩, .arrive 1 ⟨⟨10, 0, 0, 9⟩, 47808, [2]⟩,
    .receive 500 6, .receive 500 6, .receive 500 6, .receive 500 6]

end Controller
