import ElevatorController.Car.Calls

/-!
# Car/Service — every landing call is answered within a bounded number of due ticks

    DoorOpen ──1──▸ Idle ──1──▸ Moving ──1 a floor──▸ … ──▸ DoorOpen at the first call

A tick is due when the phase may end.  `cost` bounds the due ticks until the first call is answered:
three a floor of distance (a floor may cost a stop), one or two more if the car must first answer a
call where it stands.  Each due tick lowers it (`exists_advance`) until the first call goes, and
thirty a place in the list then pay for the next trip.
-/

namespace Controller

namespace LiftCar

variable {car car' : LiftCar} {now : ℤ} {call first : LandingCall}

/-- The phase may end. -/
def Due (now : ℤ) (car : LiftCar) : Prop := car.phase = .idle ∨ car.phaseDeadline ≤ now

instance (now : ℤ) (car : LiftCar) : Decidable (car.Due now) := by
  unfold Due
  infer_instance

/-- The floors between the car and a floor. -/
def distance (car : LiftCar) (floor : ℕ) : ℕ :=
  (floor - car.position) + (car.position - floor)

/-- A bound on the due ticks until the car answers a call it serves first. -/
def cost (car : LiftCar) (floor : ℕ) : ℕ :=
  match car.phase with
  | .moving => 3 * car.distance floor - 2
  | .idle => if car.hasCallAt car.position then 3 * car.distance floor + 1
    else 3 * car.distance floor - 1
  | .doorOpen => if car.hasCallAt car.position then 3 * car.distance floor + 2
    else 3 * car.distance floor

theorem cost_le (h : car.Invariant) (hfirst : Served first) : car.cost first.floorNumber ≤ 29 := by
  have hlow := h.lowest
  have hhigh := h.highest
  have hflow := hfirst.lowest
  have hfhigh := hfirst.highest
  rw [liftLowestFloor] at hlow hflow
  rw [liftHighestFloor] at hhigh hfhigh
  rw [cost, distance]
  split
  · omega
  · split <;> omega
  · split <;> omega

/-- A first call elsewhere is some floors away, and so is one ahead. -/
theorem distance_pos_of_not_hasCallAt (hfirst : first ∈ car.calls.toList)
    (hcall : ¬ car.hasCallAt car.position = true) : 0 < car.distance first.floorNumber := by
  have hne := not_hasCallAt_iff.mp hcall first hfirst
  rw [distance]
  omega

theorem cost_pos (h : car.Invariant) (hfirst : car.calls.toList.head? = some first) :
    0 < car.cost first.floorNumber := by
  have hmem := List.mem_of_mem_head? hfirst
  rw [cost]
  split
  · rename_i hphase
    obtain ⟨c, hc, -, -, hahead⟩ := h.head hphase
    obtain rfl : c = first := Option.some.inj (hc.symm.trans hfirst)
    rw [distance]
    rcases hahead with ⟨-, hlt⟩ | ⟨-, hlt⟩ <;> omega
  · split
    · omega
    · rename_i hcall
      have := distance_pos_of_not_hasCallAt hmem hcall
      omega
  · split
    · omega
    · rename_i hcall
      have := distance_pos_of_not_hasCallAt hmem hcall
      omega

/-! ## One due tick -/

/-- An opened door leaves no call at its floor, so the next trip costs three a floor. -/
theorem cost_openDoor (floor : ℕ) :
    (car.openDoor now).1.cost floor = 3 * car.distance floor := by
  have hnone : ¬ (car.openDoor now).1.hasCallAt car.position = true := by
    rw [not_hasCallAt_iff, toList_calls_openDoor]
    intro c hc
    simpa using (List.mem_filter.mp hc).2
  exact if_neg hnone

theorem distance_atNextFloor {floor : ℕ} (hpos : car.position ≤ liftHighestFloor)
    (hfloor : floor ≤ liftHighestFloor) (h : car.Ahead floor) :
    car.atNextFloor.distance floor + 1 = car.distance floor := by
  simp only [distance, atNextFloor]
  rcases nextFloor_of_ahead hpos hfloor h with ⟨-, hnext, hle⟩ | ⟨-, hnext, hle⟩ <;> omega

/-- Opening the door answers the first call, or leaves it first and nearer in cost. -/
theorem advance_openDoor {at_ : LiftCar} (hcalls : at_.calls = car.calls)
    (hcost : first.floorNumber ≠ at_.position →
      3 * at_.distance first.floorNumber + 1 ≤ car.cost first.floorNumber) :
    ∃ keep : LandingCall → Bool,
      (at_.openDoor now).1.calls.toList = car.calls.toList.filter keep ∧
        ((keep first = true ∧ (at_.openDoor now).1.cost first.floorNumber + 1
            ≤ car.cost first.floorNumber) ∨ keep first = false) := by
  refine ⟨fun c => c.floorNumber != at_.position, by rw [toList_calls_openDoor, hcalls], ?_⟩
  by_cases hfloor : first.floorNumber = at_.position
  · exact Or.inr (by simp [hfloor])
  · refine Or.inl ⟨by simpa using hfloor, ?_⟩
    rw [cost_openDoor]
    exact hcost hfloor

theorem cost_moving (hphase : car.phase = .moving) (floor : ℕ) :
    car.cost floor = 3 * car.distance floor - 2 := by
  rw [cost, hphase]

/-- Leaving for the first call takes one off its cost. -/
theorem cost_depart (hphase : car.phase = .idle) (hlen : 0 < car.calls.len)
    (hfirst : first ∈ car.calls.toList) (hcall : ¬ car.hasCallAt car.position = true) :
    (car.depart now hlen).1.cost first.floorNumber + 1 ≤ car.cost first.floorNumber := by
  have hcost : car.cost first.floorNumber = 3 * car.distance first.floorNumber - 1 := by
    rw [cost, hphase]
    exact if_neg hcall
  have hdist := distance_pos_of_not_hasCallAt hfirst hcall
  rw [hcost]
  change 3 * car.distance first.floorNumber - 2 + 1 ≤ _
  omega

/-- Passing a floor takes three off the cost of what is ahead of it. -/
theorem cost_pass (hphase : car.phase = .moving) (hpos : car.position ≤ liftHighestFloor)
    {floor : ℕ} (hfloor : floor ≤ liftHighestFloor) (hahead : car.Ahead floor)
    (hpasses : floor ≠ car.nextFloor) (deadline : ℤ) :
    LiftCar.cost { car.atNextFloor with phaseDeadline := deadline } floor + 1
      ≤ car.cost floor := by
  have hdist := distance_atNextFloor hpos hfloor hahead
  have hdist' : 0 < car.atNextFloor.distance floor := by
    rw [distance]
    rcases ahead_atNextFloor hpos hfloor hahead hpasses with ⟨-, hlt⟩ | ⟨-, hlt⟩ <;> omega
  have hcost' : LiftCar.cost { car.atNextFloor with phaseDeadline := deadline } floor
      = 3 * car.atNextFloor.distance floor - 2 := by
    simp only [cost, atNextFloor, hphase, distance]
  rw [cost_moving hphase, hcost']
  omega

/-- Closing the door takes one off the cost of the first call. -/
theorem cost_closeDoor (hphase : car.phase = .doorOpen) (hfirst : first ∈ car.calls.toList) :
    car.closeDoor.1.cost first.floorNumber + 1 ≤ car.cost first.floorNumber := by
  have hcost : car.cost first.floorNumber
      = if car.hasCallAt car.position then 3 * car.distance first.floorNumber + 2
        else 3 * car.distance first.floorNumber := by
    rw [cost, hphase]
  have hcost' : car.closeDoor.1.cost first.floorNumber
      = if car.hasCallAt car.position then 3 * car.distance first.floorNumber + 1
        else 3 * car.distance first.floorNumber - 1 := rfl
  rw [hcost, hcost']
  split
  · rfl
  · rename_i hcall
    have := distance_pos_of_not_hasCallAt hfirst hcall
    omega

/-- **A due tick answers the first call or lowers its cost**, and drops calls only. -/
theorem exists_advance (h : car.Invariant) (hdue : car.Due now)
    (hfirst : car.calls.toList.head? = some first) : ∃ keep : LandingCall → Bool,
      (car.tick now).1.calls.toList = car.calls.toList.filter keep ∧
        ((keep first = true ∧ (car.tick now).1.cost first.floorNumber + 1
            ≤ car.cost first.floorNumber) ∨ keep first = false) := by
  have hmem := List.mem_of_mem_head? hfirst
  have hserved := h.served first hmem
  have hkeep : car.calls.toList = car.calls.toList.filter fun _ => true := by simp
  have hticks := tick_ticks now car
  revert hticks
  generalize car.tick now = r
  intro hticks
  cases hticks with
  | wait hwait =>
    exfalso
    rcases hwait with ⟨-, hempty⟩ | ⟨hphase, hlt⟩
    · rw [Buffer.toList_eq_nil_iff.mpr hempty] at hmem
      exact List.not_mem_nil hmem
    · rcases hdue with hidle | hle
      · exact hphase hidle
      · exact absurd hlt (not_lt.mpr hle)
  | opens hphase hcall =>
    refine advance_openDoor rfl fun _ => ?_
    rw [cost, hphase]
    exact (if_pos hcall).ge
  | departs hphase hlen hcall =>
    exact ⟨fun _ => true, hkeep, Or.inl ⟨rfl, cost_depart hphase hlen hmem hcall⟩⟩
  | stops hphase _ hcall =>
    obtain ⟨c, hc, -, -, hahead⟩ := h.head hphase
    obtain rfl : c = first := Option.some.inj (hc.symm.trans hfirst)
    have hdist := distance_atNextFloor h.highest hserved.highest hahead
    have hcost := cost_moving hphase c.floorNumber
    exact advance_openDoor rfl fun _ => by omega
  | passes hphase _ hcall =>
    obtain ⟨c, hc, -, -, hahead⟩ := h.head hphase
    obtain rfl : c = first := Option.some.inj (hc.symm.trans hfirst)
    exact ⟨fun _ => true, hkeep, Or.inl ⟨rfl, cost_pass hphase h.highest hserved.highest hahead
      (not_hasCallAt_iff.mp hcall c hmem) _⟩⟩
  | closes hphase _ =>
    exact ⟨fun _ => true, hkeep, Or.inl ⟨rfl, cost_closeDoor hphase hmem⟩⟩

/-- A tick that is not due does nothing. -/
theorem tick_of_not_due (h : ¬ car.Due now) : car.tick now = (car, []) := by
  have hticks := tick_ticks now car
  revert hticks
  generalize car.tick now = r
  intro hticks
  rw [Due, not_or, not_le] at h
  cases hticks with
  | wait => rfl
  | opens hphase => exact absurd hphase h.1
  | departs hphase => exact absurd hphase h.1
  | stops _ hdue => exact absurd hdue (not_le.mpr h.2)
  | passes _ hdue => exact absurd hdue (not_le.mpr h.2)
  | closes _ hdue => exact absurd hdue (not_le.mpr h.2)

/-! ## The wait of a call -/

/-- A bound on the due ticks until a listed call is answered. -/
def wait (car : LiftCar) (call : LandingCall) : ℕ :=
  match car.calls.toList.head? with
  | none => 0
  | some first => car.cost first.floorNumber + 30 * car.calls.toList.idxOf call

theorem wait_eq (hfirst : car.calls.toList.head? = some first) :
    car.wait call = car.cost first.floorNumber + 30 * car.calls.toList.idxOf call := by
  rw [wait, hfirst]

/-- Dropping other elements brings an element no later. -/
theorem idxOf_filter_le {keep : LandingCall → Bool} (hkeep : keep call = true) :
    ∀ l : List LandingCall, (l.filter keep).idxOf call ≤ l.idxOf call
  | [] => le_rfl
  | a :: l => by
    have ih := idxOf_filter_le hkeep l
    rw [List.filter_cons]
    by_cases ha : a = call
    · rw [ha, if_pos hkeep, List.idxOf_cons_self, List.idxOf_cons_self]
    · rw [List.idxOf_cons_ne l ha]
      split
      · rw [List.idxOf_cons_ne _ ha]
        omega
      · omega

/-- …and dropping the first element brings it sooner. -/
theorem idxOf_filter_lt {keep : LandingCall → Bool} (hkeep : keep call = true)
    (hdrop : keep first = false) {l : List LandingCall} (hfirst : l.head? = some first) :
    (l.filter keep).idxOf call + 1 ≤ l.idxOf call := by
  obtain ⟨t, rfl⟩ := List.head?_eq_some_iff.mp hfirst
  have hne : first ≠ call := fun heq => absurd (heq ▸ hdrop) (by simp [hkeep])
  rw [List.filter_cons, if_neg (by simp [hdrop]), List.idxOf_cons_ne t hne]
  exact Nat.succ_le_succ (idxOf_filter_le hkeep t)

theorem exists_head {c : LandingCall} (hc : c ∈ car.calls.toList) :
    ∃ first, car.calls.toList.head? = some first :=
  Option.ne_none_iff_exists'.mp fun hnone =>
    absurd hc (List.head?_eq_none_iff.mp hnone ▸ List.not_mem_nil)

/-- **A tick that leaves a call listed shortens its wait if it is due**, and never lengthens it. -/
theorem wait_tick (h : car.Invariant) (hc : call ∈ car.calls.toList)
    (hc' : call ∈ (car.tick now).1.calls.toList) :
    (car.tick now).1.wait call + (if decide (car.Due now) then 1 else 0) ≤ car.wait call := by
  by_cases hdue : car.Due now
  swap
  · rw [tick_of_not_due hdue]
    simp [hdue]
  obtain ⟨first, hfirst⟩ := exists_head hc
  obtain ⟨first', hfirst'⟩ := exists_head hc'
  obtain ⟨keep, hcalls, hadvance⟩ := exists_advance h hdue hfirst
  have hkeep : keep call = true := by
    rw [hcalls] at hc'
    exact (List.mem_filter.mp hc').2
  rw [wait_eq hfirst, wait_eq hfirst', hcalls, if_pos (decide_eq_true hdue)]
  rcases hadvance with ⟨hstays, hcost⟩ | hgone
  · obtain rfl : first = first' := by
      obtain ⟨t, ht⟩ := List.head?_eq_some_iff.mp hfirst
      rw [hcalls, ht, List.filter_cons, if_pos hstays] at hfirst'
      exact Option.some.inj hfirst'
    have := idxOf_filter_le hkeep car.calls.toList
    omega
  · have hlt := idxOf_filter_lt hkeep hgone hfirst
    have hpos := cost_pos h hfirst
    have hle := cost_le (h.tick now) ((h.tick now).served first' (List.mem_of_mem_head? hfirst'))
    omega

/-- **Listing a call elsewhere leaves every wait as it was.** -/
theorem wait_addCall {new : LandingCall} (hadd : car.addCall new = some car')
    (hnew : car.phase ≠ .moving → new.floorNumber ≠ car.position)
    (hc : call ∈ car.calls.toList) : car'.wait call = car.wait call := by
  obtain ⟨-, rfl⟩ | ⟨-, hroom, rfl⟩ := addCall_eq_some.mp hadd
  · rfl
  have hlist : (car.calls.push new hroom).toList = car.calls.toList ++ [new] :=
    Buffer.toList_push _ _ _
  obtain ⟨first, hfirst⟩ := exists_head hc
  have hfirst' : (car.calls.push new hroom).toList.head? = some first := by
    rw [hlist, List.head?_append, hfirst]
    rfl
  have hcost : cost { car with calls := car.calls.push new hroom } first.floorNumber
      = car.cost first.floorNumber := by
    by_cases hphase : car.phase = .moving
    · simp only [cost, hphase, distance]
    · have hhas : hasCallAt car.position { car with calls := car.calls.push new hroom }
          = car.hasCallAt car.position := by
        rw [Bool.eq_iff_iff, hasCallAt_iff, hasCallAt_iff, hlist]
        simp only [List.mem_append, List.mem_singleton, or_and_right, exists_or, exists_eq_left]
        exact or_iff_left (hnew hphase)
      simp only [cost, hhas, distance]
  rw [wait_eq hfirst, wait_eq hfirst', hcost, hlist, List.idxOf_append_of_mem hc]

end LiftCar

/-! ## Runs -/

/-- A tick that is due counts. -/
def CarEvent.isDueTick (s : State) : CarEvent → Bool
  | .tick now => decide (s.liftCar.Due now)
  | _ => false

/-- The event is no COLDSTART and no accepted write for the floor a standing car is on. -/
def CarEvent.Undisturbed (cfg : Config) (s : State) : CarEvent → Prop
  | .write w => (setElevatorGroupLandingCallControl cfg w s).1.accepted = true →
      s.liftCar.phase ≠ .moving → w.floorNumber ≠ s.liftCar.position
  | .tick _ => True
  | .coldstart => False

/-- One undisturbed event does not lengthen the wait of a call it leaves listed. -/
theorem CarEvent.wait_step (cfg : Config) (s : State) (e : CarEvent) (call : LandingCall)
    (h : s.liftCar.Invariant) (hc : call ∈ s.liftCar.calls.toList) (he : e.Undisturbed cfg s)
    (hc' : call ∈ (e.step cfg s).liftCar.calls.toList) :
    (e.step cfg s).liftCar.wait call + (if e.isDueTick s then 1 else 0)
      ≤ s.liftCar.wait call := by
  cases e with
  | tick now => exact LiftCar.wait_tick h hc hc'
  | coldstart => exact he.elim
  | write w =>
    refine le_of_eq ?_
    obtain hw | ⟨new, car, hnew, hadd, hw⟩ := setElevatorGroupLandingCallControl_cases cfg w s
    · simp only [CarEvent.step, hw]
      rfl
    · have hfloor := (LandingCallWrite.call_eq_some hnew).1
      simp only [CarEvent.step, hw]
      exact LiftCar.wait_addCall hadd (fun hphase => hfloor ▸ he (by rw [hw]; rfl) hphase) hc

/-- An event that drops a call, short of a COLDSTART, is a tick that opens the door at its floor. -/
theorem CarEvent.opensDoor_of_dropped {cfg : Config} {s : State} {e : CarEvent} {call : LandingCall}
    (h : s.liftCar.Invariant) (he : e.Undisturbed cfg s) (hc : call ∈ s.liftCar.calls.toList)
    (hgone : call ∉ (e.step cfg s).liftCar.calls.toList) :
    (∃ now, e = .tick now)
      ∧ s.liftCar.OpensDoorAt call.floorNumber (e.step cfg s).liftCar := by
  cases e with
  | coldstart => exact he.elim
  | write w =>
    refine absurd ?_ hgone
    obtain hw | ⟨new, car, -, hadd, hw⟩ := setElevatorGroupLandingCallControl_cases cfg w s
    · simpa only [CarEvent.step, hw] using hc
    · simp only [CarEvent.step, hw]
      obtain ⟨-, rfl⟩ | ⟨-, hroom, rfl⟩ := LiftCar.addCall_eq_some.mp hadd
      · exact hc
      · rw [Buffer.toList_push]
        exact List.mem_append_left _ hc
  | tick now =>
    refine ⟨⟨now, rfl⟩, ?_⟩
    obtain ⟨hopens, hcalls⟩ | ⟨-, hcalls, -⟩ := h.tick_calls now
    · change call ∉ (s.liftCar.tick now).1.calls.toList at hgone
      have hfloor : call.floorNumber = (s.liftCar.tick now).1.position := by
        by_contra hne
        refine hgone ?_
        rw [hcalls]
        exact List.mem_filter.mpr ⟨hc, by simpa using hne⟩
      rw [hfloor]
      exact hopens
    · refine absurd ?_ hgone
      change call ∈ (s.liftCar.tick now).1.calls.toList
      rwa [hcalls]

/-- The wait of the call at index `k`. -/
theorem LiftCar.wait_le {car : LiftCar} {call : LandingCall} {k : ℕ} (h : car.Invariant)
    (hk : car.calls.toList[k]? = some call) : car.wait call ≤ 30 * (k + 1) := by
  have hc := List.mem_of_getElem? hk
  obtain ⟨first, hfirst⟩ := exists_head hc
  have hcost := cost_le h (h.served first (List.mem_of_mem_head? hfirst))
  have hidx : car.calls.toList.idxOf call ≤ k := by
    obtain ⟨hlt, rfl⟩ := List.getElem?_eq_some_iff.mp hk
    exact le_of_eq (h.nodup.idxOf_getElem k hlt)
  rw [wait_eq hfirst]
  omega

/-- **The call at index `k` is answered within `30 · (k + 1)` due ticks**, from any state with the
invariant and under any undisturbed continuation. -/
theorem CarEvent.exists_answer (cfg : Config) {s : State} (h : s.liftCar.Invariant) {k : ℕ}
    {call : LandingCall} (hk : s.liftCar.calls.toList[k]? = some call) (es : List CarEvent)
    (hes : ∀ x ∈ Runs.steps (CarEvent.step cfg) es s, x.2.Undisturbed cfg x.1)
    (hdue : 30 * (k + 1) ≤ Runs.count (CarEvent.step cfg) CarEvent.isDueTick es s) :
    ∃ (es₁ : List CarEvent) (now : ℤ) (es₂ : List CarEvent), es = es₁ ++ CarEvent.tick now :: es₂
      ∧ Runs.count (CarEvent.step cfg) CarEvent.isDueTick (es₁ ++ [CarEvent.tick now]) s
        ≤ 30 * (k + 1)
      ∧ call ∈ (Runs.run (CarEvent.step cfg) es₁ s).liftCar.calls.toList
      ∧ (Runs.run (CarEvent.step cfg) es₁ s).liftCar.OpensDoorAt call.floorNumber
        (Runs.run (CarEvent.step cfg) (es₁ ++ [CarEvent.tick now]) s).liftCar
      ∧ call ∉
        (Runs.run (CarEvent.step cfg) (es₁ ++ [CarEvent.tick now]) s).liftCar.calls.toList := by
  have hle := LiftCar.wait_le h hk
  have hpos : ∀ t : State, t.liftCar.Invariant → call ∈ t.liftCar.calls.toList →
      0 < t.liftCar.wait call := fun t ht hc => by
    obtain ⟨first, hfirst⟩ := LiftCar.exists_head hc
    rw [LiftCar.wait_eq hfirst]
    exact Nat.add_pos_left (LiftCar.cost_pos ht hfirst) _
  obtain ⟨es₁, e, es₂, rfl, hin, hout, hcount⟩ := Runs.exists_leave
    (C := fun s e => e.Undisturbed cfg s) (Q := fun t : State => call ∈ t.liftCar.calls.toList)
    (μ := fun t : State => t.liftCar.wait call) hpos
    (fun t e ht _ => CarEvent.invariant_step cfg t e ht)
    (fun t e ht hc he hc' => CarEvent.wait_step cfg t e call ht hc he hc') es h
    (List.mem_of_getElem? hk) hes (hle.trans hdue)
  have hinv : (Runs.run (CarEvent.step cfg) es₁ s).liftCar.Invariant :=
    CarEvent.invariant_run_of cfg h es₁
  have he : e.Undisturbed cfg (Runs.run (CarEvent.step cfg) es₁ s) :=
    hes (_, e) ((Runs.mem_steps_iff _).mpr ⟨es₁, es₂, rfl, rfl⟩)
  have hstep := Runs.run_concat (CarEvent.step cfg) es₁ e s
  have hopens := CarEvent.opensDoor_of_dropped hinv he hin (hstep ▸ hout)
  obtain ⟨⟨now, rfl⟩, hopens⟩ := hopens
  exact ⟨es₁, now, es₂, rfl, hcount.trans hle, hin, hstep ▸ hopens, hout⟩

/-! ## Coming to rest -/

/-- No call is listed and the car is idle. -/
def LiftCar.AtRest (car : LiftCar) : Prop := car.calls.len = 0 ∧ car.phase = .idle

/-- The event is a tick or a refused write. -/
def CarEvent.Quiet (cfg : Config) (s : State) : CarEvent → Prop
  | .write w => (setElevatorGroupLandingCallControl cfg w s).1.accepted = false
  | .tick _ => True
  | .coldstart => False

/-- A bound on the due ticks until the car is at rest. -/
def LiftCar.remaining (car : LiftCar) : ℕ :=
  match car.calls.toList.head? with
  | none => if car.phase = .idle then 0 else 1
  | some first => car.cost first.floorNumber + 30 * (car.calls.len - 1) + 1

theorem LiftCar.remaining_of_empty {car : LiftCar} (h : car.calls.len = 0) :
    car.remaining = if car.phase = .idle then 0 else 1 := by
  rw [remaining, Buffer.toList_eq_nil_iff.mpr h]
  rfl

theorem LiftCar.remaining_of_head {car : LiftCar} {first : LandingCall}
    (hfirst : car.calls.toList.head? = some first) :
    car.remaining = car.cost first.floorNumber + 30 * (car.calls.len - 1) + 1 := by
  rw [remaining, hfirst]

theorem LiftCar.len_pos_of_head {car : LiftCar} {first : LandingCall}
    (hfirst : car.calls.toList.head? = some first) : 0 < car.calls.len := by
  rw [← Buffer.length_toList]
  exact List.length_pos_of_mem (List.mem_of_mem_head? hfirst)

theorem LiftCar.remaining_le {car : LiftCar} (h : car.Invariant) :
    car.remaining ≤ 30 * car.calls.len + 1 := by
  rcases Nat.eq_zero_or_pos car.calls.len with hlen | hlen
  · rw [remaining_of_empty hlen]
    split <;> omega
  · have hfirst := Buffer.head?_toList car.calls hlen
    have hcost := cost_le h (h.served _ (List.mem_of_mem_head? hfirst))
    rw [remaining_of_head hfirst]
    omega

/-- With no call listed the car is not moving, so a due tick brings it to rest. -/
theorem LiftCar.Invariant.phase_of_empty {car : LiftCar} (h : car.Invariant)
    (hlen : car.calls.len = 0) : car.phase = .idle ∨ car.phase = .doorOpen := by
  cases hphase : car.phase with
  | idle => exact Or.inl rfl
  | doorOpen => exact Or.inr rfl
  | moving =>
    obtain ⟨c, hhead, -⟩ := h.head hphase
    exact absurd (len_pos_of_head hhead) (by omega)

/-- **A due tick brings the car nearer to rest.** -/
theorem LiftCar.remaining_tick {car : LiftCar} {now : ℤ} (h : car.Invariant)
    (hrest : ¬ car.AtRest) :
    (car.tick now).1.remaining + (if decide (car.Due now) then 1 else 0) ≤ car.remaining := by
  by_cases hdue : car.Due now
  swap
  · rw [tick_of_not_due hdue]
    simp [hdue]
  rw [if_pos (decide_eq_true hdue)]
  rcases Nat.eq_zero_or_pos car.calls.len with hlen | hlen
  · have hphase : car.phase = .doorOpen :=
      (h.phase_of_empty hlen).resolve_left fun hidle => hrest ⟨hlen, hidle⟩
    have hpast : ¬ now < car.phaseDeadline := by
      rcases hdue with hidle | hle
      · exact absurd (hphase.symm.trans hidle) nofun
      · exact not_lt.mpr hle
    have htick : car.tick now = car.closeDoor := by
      rw [tick, hphase]
      exact if_neg hpast
    have hlen' : car.closeDoor.1.calls.len = 0 := hlen
    have hclosed : car.closeDoor.1.remaining = 0 := (remaining_of_empty hlen').trans (if_pos rfl)
    rw [htick, hclosed, remaining_of_empty hlen, if_neg (by simp [hphase])]
  · have hfirst := Buffer.head?_toList car.calls hlen
    obtain ⟨keep, hcalls, hadvance⟩ := exists_advance h hdue hfirst
    have hlen' : (car.tick now).1.calls.len = (car.calls.toList.filter keep).length := by
      rw [← hcalls, Buffer.length_toList]
    have hle := List.length_filter_le keep car.calls.toList
    rw [Buffer.length_toList, ← hlen'] at hle
    rw [remaining_of_head hfirst]
    rcases hadvance with ⟨hstays, hcost⟩ | hgone
    · obtain ⟨t, ht⟩ := List.head?_eq_some_iff.mp hfirst
      have hfirst' : (car.tick now).1.calls.toList.head? = some (car.calls.get 0 hlen) := by
        rw [hcalls, ht, List.filter_cons, if_pos hstays]
        rfl
      rw [remaining_of_head hfirst']
      omega
    · have hlt : (car.tick now).1.calls.len < car.calls.len := by
        rw [hlen', ← Buffer.length_toList]
        exact List.length_filter_lt_length_iff_exists.mpr
          ⟨_, List.mem_of_mem_head? hfirst, by simp [hgone]⟩
      have hpos := cost_pos h hfirst
      have hle' := remaining_le (h.tick now)
      omega

theorem CarEvent.remaining_step (cfg : Config) (s : State) (e : CarEvent)
    (h : s.liftCar.Invariant) (hrest : ¬ s.liftCar.AtRest) (he : e.Quiet cfg s) :
    (e.step cfg s).liftCar.remaining + (if e.isDueTick s then 1 else 0)
      ≤ s.liftCar.remaining := by
  cases e with
  | tick now => exact LiftCar.remaining_tick h hrest
  | coldstart => exact he.elim
  | write w =>
    obtain hw | ⟨new, car, -, -, hw⟩ := setElevatorGroupLandingCallControl_cases cfg w s
    · simp only [CarEvent.step, hw]
      rfl
    · rw [CarEvent.Quiet, hw] at he
      exact absurd he (by simp)

/-- At rest, quiet events change nothing. -/
theorem CarEvent.step_of_atRest {cfg : Config} {s : State} {e : CarEvent}
    (hrest : s.liftCar.AtRest) (he : e.Quiet cfg s) : (e.step cfg s).liftCar = s.liftCar := by
  cases e with
  | coldstart => exact he.elim
  | write w =>
    obtain hw | ⟨new, car, -, -, hw⟩ := setElevatorGroupLandingCallControl_cases cfg w s
    · simp only [CarEvent.step, hw]
    · rw [CarEvent.Quiet, hw] at he
      exact absurd he (by simp)
  | tick now =>
    change (s.liftCar.tick now).1 = s.liftCar
    rw [LiftCar.tick, hrest.2]
    simp only [hrest.1, dif_pos]

/-- **With no new call the car comes to rest**, its list empty and its door closed. -/
theorem CarEvent.atRest_of_quiet (cfg : Config) {s : State} (h : s.liftCar.Invariant)
    (es : List CarEvent) (hes : ∀ x ∈ Runs.steps (CarEvent.step cfg) es s, x.2.Quiet cfg x.1)
    (hdue : 30 * s.liftCar.calls.len + 1
      ≤ Runs.count (CarEvent.step cfg) CarEvent.isDueTick es s) :
    (Runs.run (CarEvent.step cfg) es s).liftCar.AtRest := by
  by_cases hrest : s.liftCar.AtRest
  · exact Runs.run_invariant_of_steps (P := fun t : State => t.liftCar.AtRest)
      (fun t e ht he => (CarEvent.step_of_atRest ht he).symm ▸ ht) es hrest hes
  have hpos : ∀ t : State, t.liftCar.Invariant → ¬ t.liftCar.AtRest → 0 < t.liftCar.remaining := by
    intro t ht hnot
    rcases Nat.eq_zero_or_pos t.liftCar.calls.len with hlen | hlen
    · rw [LiftCar.remaining_of_empty hlen, if_neg fun hidle => hnot ⟨hlen, hidle⟩]
      exact one_pos
    · rw [LiftCar.remaining_of_head (Buffer.head?_toList _ hlen)]
      exact Nat.succ_pos _
  obtain ⟨es₁, e, es₂, rfl, -, hout, -⟩ := Runs.exists_leave
    (C := fun s e => e.Quiet cfg s) (Q := fun t : State => ¬ t.liftCar.AtRest)
    (μ := fun t : State => t.liftCar.remaining) hpos
    (fun t e ht _ => CarEvent.invariant_step cfg t e ht)
    (fun t e ht hnot he _ => CarEvent.remaining_step cfg t e ht hnot he) es h hrest hes
    ((LiftCar.remaining_le h).trans hdue)
  rw [List.append_cons, Runs.run_append]
  refine Runs.run_invariant_of_steps (P := fun t : State => t.liftCar.AtRest)
    (fun t e ht he => (CarEvent.step_of_atRest ht he).symm ▸ ht) es₂ (not_not.mp hout)
    fun x hx => hes x ?_
  rw [List.append_cons, Runs.steps_append]
  exact List.mem_append_right _ hx

/-- **Bounded service of landing calls.**  From every state the car can reach: under every
continuation without a COLDSTART and without an accepted write for the floor a standing car is on,
the call at index `k` is answered — by a tick that opens the door at its floor — within
`30 · (k + 1)` due ticks; and with no new call the list becomes empty and the car idle, its door
closed. -/
theorem landing_calls_are_served (cfg : Config) (start : ℤ) (before es : List CarEvent) :
    let s := Runs.run (CarEvent.step cfg) before (.powerOn cfg start)
    let due := Runs.count (CarEvent.step cfg) CarEvent.isDueTick
    ((∀ x ∈ Runs.steps (CarEvent.step cfg) es s, x.2.Undisturbed cfg x.1) →
      ∀ k call, s.liftCar.calls.toList[k]? = some call → 30 * (k + 1) ≤ due es s →
        ∃ es₁ now es₂, es = es₁ ++ .tick now :: es₂ ∧ due (es₁ ++ [.tick now]) s ≤ 30 * (k + 1)
          ∧ call ∈ (Runs.run (CarEvent.step cfg) es₁ s).liftCar.calls.toList
          ∧ (Runs.run (CarEvent.step cfg) es₁ s).liftCar.OpensDoorAt call.floorNumber
            (Runs.run (CarEvent.step cfg) (es₁ ++ [.tick now]) s).liftCar
          ∧ call ∉ (Runs.run (CarEvent.step cfg) (es₁ ++ [.tick now]) s).liftCar.calls.toList)
    ∧ ((∀ x ∈ Runs.steps (CarEvent.step cfg) es s, x.2.Quiet cfg x.1) →
      30 * s.liftCar.calls.len + 1 ≤ due es s →
        let car := (Runs.run (CarEvent.step cfg) es s).liftCar
        car.calls.toList = [] ∧ car.phase = .idle ∧ car.doorStatus = doorStatusClosed) := by
  intro s due
  have h : s.liftCar.Invariant := CarEvent.invariant_run cfg start before
  refine ⟨fun hes k call hk hdue => CarEvent.exists_answer cfg h hk es hes hdue,
    fun hes hdue => ?_⟩
  have hrest := CarEvent.atRest_of_quiet cfg h es hes hdue
  have hend : (Runs.run (CarEvent.step cfg) es s).liftCar.Invariant :=
    CarEvent.invariant_run_of cfg h es
  exact ⟨Buffer.toList_eq_nil_iff.mpr hrest.1, hrest.2, (hend.idle hrest.2).2⟩

/-- The steps of a run of ticks are ticks. -/
theorem CarEvent.steps_ticks {cfg : Config} {s : State} (times : List ℤ) :
    ∀ x ∈ Runs.steps (CarEvent.step cfg) (times.map .tick) s, ∃ now, x.2 = .tick now := by
  intro x hx
  obtain ⟨es₁, es₂, hes, -⟩ := (Runs.mem_steps_iff _).mp hx
  have hmem : x.2 ∈ times.map CarEvent.tick := hes ▸ List.mem_append_right _ List.mem_cons_self
  obtain ⟨now, -, hnow⟩ := List.mem_map.mp hmem
  exact ⟨now, hnow.symm⟩

/-- One call, for the floor above the start floor. -/
def callToFloorFour : List CarEvent := [.write ⟨389014, 1, 4, 1, 3, 0⟩]

/-- A tick every ten seconds. -/
def ticksEveryTenSeconds : List CarEvent :=
  ((List.range 31).map fun i : ℕ => ((i : ℤ) + 1) * 10000000000).map .tick

/-- The car answers the call and comes to rest. -/
theorem landing_calls_are_served_at_floor_four :
    let cfg := Config.standard .utc
    let s := Runs.run (CarEvent.step cfg) callToFloorFour (.powerOn cfg 0)
    (∃ es₁ now es₂, ticksEveryTenSeconds = es₁ ++ .tick now :: es₂
      ∧ Runs.count (CarEvent.step cfg) CarEvent.isDueTick (es₁ ++ [.tick now]) s ≤ 30 * (0 + 1)
      ∧ ⟨4, 3⟩ ∈ (Runs.run (CarEvent.step cfg) es₁ s).liftCar.calls.toList
      ∧ (Runs.run (CarEvent.step cfg) es₁ s).liftCar.OpensDoorAt (LandingCall.floorNumber ⟨4, 3⟩)
        (Runs.run (CarEvent.step cfg) (es₁ ++ [.tick now]) s).liftCar
      ∧ ⟨4, 3⟩ ∉ (Runs.run (CarEvent.step cfg) (es₁ ++ [.tick now]) s).liftCar.calls.toList)
    ∧ (Runs.run (CarEvent.step cfg) ticksEveryTenSeconds s).liftCar.phase = .idle := by
  intro cfg s
  have hserved := landing_calls_are_served cfg 0 callToFloorFour ticksEveryTenSeconds
  have hticks : ∀ x ∈ Runs.steps (CarEvent.step cfg) ticksEveryTenSeconds s,
      ∃ now, x.2 = .tick now := CarEvent.steps_ticks _
  have hcall : s.liftCar.calls.toList[0]? = some ⟨4, 3⟩ := by decide +kernel
  have hlen : s.liftCar.calls.len = 1 := by decide +kernel
  have hdue : 31 ≤ Runs.count (CarEvent.step cfg) CarEvent.isDueTick ticksEveryTenSeconds s := by
    decide +kernel
  have hanswer := hserved.1 (fun x hx => by
    obtain ⟨now, hnow⟩ := hticks x hx
    rw [hnow]
    exact trivial) 0 ⟨4, 3⟩ hcall (le_trans (by norm_num) hdue)
  have hrest := hserved.2 (fun x hx => by
    obtain ⟨now, hnow⟩ := hticks x hx
    rw [hnow]
    exact trivial) (hlen.symm ▸ hdue)
  refine ⟨hanswer, ?_⟩
  dsimp only [s]
  exact hrest.2.1

end Controller
