import ElevatorController.Car.Tick

/-!
# Car/Invariant — the car stays in the shaft

Nothing in `LiftCarTick` checks a floor.  What keeps the car between the lowest and the highest
floor is that while it moves, the *first* listed call lies strictly ahead of it (`Ahead`): writes
append behind the first call, a stop on the way leaves it listed, and the car stops when it reaches
it.
-/

namespace Controller

namespace LiftCar

variable {car : LiftCar} {now : ℤ}

/-- The floor lies strictly ahead in the direction of travel. -/
def Ahead (car : LiftCar) (floor : ℕ) : Prop :=
  (car.movingDirection = liftCarDirectionUp ∧ car.position < floor)
    ∨ (car.movingDirection = liftCarDirectionDown ∧ floor < car.position)

/-- A call this installation can have. -/
structure Served (call : LandingCall) : Prop where
  lowest : liftLowestFloor ≤ call.floorNumber
  highest : call.floorNumber ≤ liftHighestFloor
  button : call.direction = liftCarDirectionUp ∨ call.direction = liftCarDirectionDown

/-- **The car invariant.** -/
structure Invariant (car : LiftCar) : Prop where
  lowest : liftLowestFloor ≤ car.position
  highest : car.position ≤ liftHighestFloor
  served : ∀ c ∈ car.calls.toList, Served c
  nodup : car.calls.toList.Nodup
  idle : car.phase = .idle →
    car.movingDirection = liftCarDirectionStopped ∧ car.doorStatus = doorStatusClosed
  doorOpen : car.phase = .doorOpen →
    car.movingDirection = liftCarDirectionStopped ∧ car.doorStatus = doorStatusOpened
  moving : car.phase = .moving → car.doorStatus = doorStatusClosed
    ∧ ∃ c ∈ car.calls.toList.head?, car.Ahead c.floorNumber

/-- The car at power-on satisfies the invariant. -/
theorem invariant_powerOn : Invariant {} where
  lowest := by decide
  highest := by decide
  served := fun _ hc => absurd hc List.not_mem_nil
  nodup := List.nodup_nil
  idle := fun _ => ⟨rfl, rfl⟩
  doorOpen := nofun
  moving := nofun

/-! ## The next floor -/

/-- With a floor of the shaft ahead the next floor is one towards it, and no octet arithmetic
wraps. -/
theorem nextFloor_of_ahead {floor : ℕ} (hpos : car.position ≤ liftHighestFloor)
    (hfloor : floor ≤ liftHighestFloor) (h : car.Ahead floor) :
    (car.movingDirection = liftCarDirectionUp ∧ car.nextFloor = car.position + 1
        ∧ car.nextFloor ≤ floor)
      ∨ (car.movingDirection = liftCarDirectionDown ∧ car.nextFloor + 1 = car.position
        ∧ floor ≤ car.nextFloor) := by
  rw [liftHighestFloor] at hpos hfloor
  rcases h with ⟨hdir, hlt⟩ | ⟨hdir, hlt⟩
  · refine Or.inl ⟨hdir, ?_⟩
    rw [nextFloor, if_pos hdir]
    omega
  · refine Or.inr ⟨hdir, ?_⟩
    rw [nextFloor, if_neg (by rw [hdir]; decide)]
    omega

/-- A moving car that has not reached the floor ahead still has it ahead. -/
theorem ahead_atNextFloor {floor : ℕ} (hpos : car.position ≤ liftHighestFloor)
    (hfloor : floor ≤ liftHighestFloor) (h : car.Ahead floor) (hne : floor ≠ car.nextFloor) :
    car.atNextFloor.Ahead floor := by
  rcases nextFloor_of_ahead hpos hfloor h with ⟨hdir, hnext, hle⟩ | ⟨hdir, hnext, hle⟩
  · exact Or.inl ⟨hdir, lt_of_le_of_ne hle hne.symm⟩
  · exact Or.inr ⟨hdir, lt_of_le_of_ne hle hne⟩

/-- **The first call of a moving car**, with what the invariant says of it. -/
theorem Invariant.head (h : car.Invariant) (hphase : car.phase = .moving) :
    ∃ c, car.calls.toList.head? = some c ∧ c ∈ car.calls.toList ∧ Served c
      ∧ car.Ahead c.floorNumber := by
  obtain ⟨-, c, hhead, hahead⟩ := h.moving hphase
  have hmem := List.mem_of_mem_head? hhead
  exact ⟨c, hhead, hmem, h.served c hmem, hahead⟩

theorem Invariant.nextFloor_mem (h : car.Invariant) (hphase : car.phase = .moving) :
    liftLowestFloor ≤ car.nextFloor ∧ car.nextFloor ≤ liftHighestFloor := by
  obtain ⟨c, -, -, hc, hahead⟩ := h.head hphase
  have hlow := hc.lowest
  have hhigh := hc.highest
  have hpos := h.lowest
  have hpos' := h.highest
  rcases nextFloor_of_ahead h.highest hc.highest hahead with ⟨-, hnext, hle⟩ | ⟨-, hnext, hle⟩
  · omega
  · omega

/-! ## Ticks -/

/-- Opening the door, wherever the car stands in the shaft. -/
theorem invariant_openDoor (hlow : liftLowestFloor ≤ car.position)
    (hhigh : car.position ≤ liftHighestFloor) (hserved : ∀ c ∈ car.calls.toList, Served c)
    (hnodup : car.calls.toList.Nodup) : (car.openDoor now).1.Invariant where
  lowest := hlow
  highest := hhigh
  served := fun c hc => by
    rw [toList_calls_openDoor] at hc
    exact hserved c (List.mem_of_mem_filter hc)
  nodup := by
    rw [toList_calls_openDoor]
    exact hnodup.filter _
  idle := nofun
  doorOpen := fun _ => ⟨rfl, rfl⟩
  moving := nofun

theorem invariant_depart (h : car.Invariant) (hphase : car.phase = .idle)
    (hlen : 0 < car.calls.len) (hcall : ¬ car.hasCallAt car.position = true) :
    (car.depart now hlen).1.Invariant where
  lowest := h.lowest
  highest := h.highest
  served := h.served
  nodup := h.nodup
  idle := nofun
  doorOpen := nofun
  moving := fun _ => by
    have hhead := Buffer.head?_toList car.calls hlen
    have hne := not_hasCallAt_iff.mp hcall _ (List.mem_of_mem_head? hhead)
    refine ⟨(h.idle hphase).2, _, hhead, ?_⟩
    simp only [depart, Ahead]
    split_ifs with hgt
    · exact Or.inl ⟨rfl, hgt⟩
    · exact Or.inr ⟨rfl, lt_of_le_of_ne (not_lt.mp hgt) hne⟩

theorem invariant_pass (h : car.Invariant) (hphase : car.phase = .moving)
    (hcall : ¬ car.hasCallAt car.nextFloor = true) (deadline : ℤ) :
    Invariant { car.atNextFloor with phaseDeadline := deadline } where
  lowest := (h.nextFloor_mem hphase).1
  highest := (h.nextFloor_mem hphase).2
  served := h.served
  nodup := h.nodup
  idle := fun hidle => absurd (hphase.symm.trans hidle) nofun
  doorOpen := fun hopen => absurd (hphase.symm.trans hopen) nofun
  moving := fun _ => by
    obtain ⟨c, hhead, hmem, hc, hahead⟩ := h.head hphase
    exact ⟨(h.moving hphase).1, c, hhead,
      ahead_atNextFloor h.highest hc.highest hahead (not_hasCallAt_iff.mp hcall c hmem)⟩

theorem invariant_closeDoor (h : car.Invariant) (hphase : car.phase = .doorOpen) :
    car.closeDoor.1.Invariant where
  lowest := h.lowest
  highest := h.highest
  served := h.served
  nodup := h.nodup
  idle := fun _ => ⟨(h.doorOpen hphase).1, rfl⟩
  doorOpen := nofun
  moving := nofun

/-- **A tick keeps the invariant.** -/
theorem Invariant.tick (h : car.Invariant) (now : ℤ) : (car.tick now).1.Invariant := by
  have hticks := tick_ticks now car
  revert hticks
  generalize car.tick now = r
  intro hticks
  cases hticks with
  | wait => exact h
  | opens => exact invariant_openDoor h.lowest h.highest h.served h.nodup
  | departs hphase hlen hcall => exact invariant_depart h hphase hlen hcall
  | stops hphase =>
    exact invariant_openDoor (h.nextFloor_mem hphase).1 (h.nextFloor_mem hphase).2 h.served h.nodup
  | passes hphase _ hcall => exact invariant_pass h hphase hcall _
  | closes hphase => exact invariant_closeDoor h hphase

/-! ## Writes -/

/-- Listing a served call keeps the invariant: the first call stays first. -/
theorem Invariant.addCall (h : car.Invariant) {call : LandingCall} (hcall : Served call)
    {car' : LiftCar} (hadd : car.addCall call = some car') : car'.Invariant := by
  obtain ⟨-, rfl⟩ | ⟨hnew, hroom, rfl⟩ := addCall_eq_some.mp hadd
  · exact h
  have hlist : (car.calls.push call hroom).toList = car.calls.toList ++ [call] :=
    Buffer.toList_push _ _ _
  exact
    { lowest := h.lowest
      highest := h.highest
      served := fun c hc => by
        rw [hlist] at hc
        rcases List.mem_append.mp hc with hc | hc
        · exact h.served c hc
        · rwa [List.mem_singleton.mp hc]
      nodup := by
        rw [hlist, List.nodup_append]
        refine ⟨h.nodup, List.nodup_singleton call, fun a ha b hb => ?_⟩
        rw [List.mem_singleton.mp hb]
        exact fun heq => hnew (heq ▸ ha)
      idle := h.idle
      doorOpen := h.doorOpen
      moving := fun hphase => by
        obtain ⟨hdoor, c, hhead, hahead⟩ := h.moving hphase
        refine ⟨hdoor, c, ?_, hahead⟩
        rw [hlist, List.head?_append, Option.mem_def.mp hhead]
        rfl }

end LiftCar

theorem LandingCallWrite.served_call {w : LandingCallWrite} {call : LandingCall}
    (h : w.call = some call) : LiftCar.Served call := by
  obtain ⟨-, ⟨hlow, hhigh⟩, hbutton⟩ := LandingCallWrite.call_eq_some h
  exact ⟨hlow, hhigh, hbutton⟩

/-- **Every event of the car keeps its invariant.** -/
theorem CarEvent.invariant_step (cfg : Config) (s : State) (e : CarEvent)
    (h : s.liftCar.Invariant) : (e.step cfg s).liftCar.Invariant := by
  cases e with
  | write w =>
    rw [CarEvent.step]
    obtain hw | ⟨call, car, hcall, hadd, hw⟩ := setElevatorGroupLandingCallControl_cases cfg w s
    · rwa [hw]
    · rw [hw]
      exact h.addCall (LandingCallWrite.served_call hcall) hadd
  | tick now => exact h.tick now
  | coldstart => exact LiftCar.invariant_powerOn

/-- **Every run keeps the invariant**, from wherever it starts. -/
theorem CarEvent.invariant_run_of (cfg : Config) {s : State} (h : s.liftCar.Invariant)
    (es : List CarEvent) : (Runs.run (CarEvent.step cfg) es s).liftCar.Invariant :=
  Runs.run_invariant (P := fun s : State => s.liftCar.Invariant) (CarEvent.invariant_step cfg) es h

/-- The invariant after any run from power-on. -/
theorem CarEvent.invariant_run (cfg : Config) (start : ℤ) (es : List CarEvent) :
    (Runs.run (CarEvent.step cfg) es (.powerOn cfg start)).liftCar.Invariant :=
  CarEvent.invariant_run_of cfg LiftCar.invariant_powerOn es

/-- **The car stays in the shaft, with its door closed while it moves.**  In every state that
landing-call writes, ticks and COLDSTARTs lead to from power-on, the invariant holds, at most eight
calls are listed, and the next floor of a moving car is one up or one down, in the shaft, with no
octet arithmetic wrapping. -/
theorem car_stays_in_shaft (cfg : Config) (start : ℤ) (es : List CarEvent) :
    let car := (Runs.run (CarEvent.step cfg) es (.powerOn cfg start)).liftCar
    car.Invariant ∧ car.calls.len ≤ 8 ∧
      (car.phase = .moving → car.doorStatus = doorStatusClosed
        ∧ (liftLowestFloor ≤ car.nextFloor ∧ car.nextFloor ≤ liftHighestFloor)
        ∧ ((car.movingDirection = liftCarDirectionUp ∧ car.nextFloor = car.position + 1)
          ∨ (car.movingDirection = liftCarDirectionDown ∧ car.nextFloor + 1 = car.position))) := by
  intro car
  have h : car.Invariant := CarEvent.invariant_run cfg start es
  refine ⟨h, car.calls.len_le, fun hphase => ⟨(h.moving hphase).1, h.nextFloor_mem hphase, ?_⟩⟩
  obtain ⟨c, -, -, hc, hahead⟩ := h.head hphase
  rcases LiftCar.nextFloor_of_ahead h.highest hc.highest hahead with ⟨hd, hn, -⟩ | ⟨hd, hn, -⟩
  · exact Or.inl ⟨hd, hn⟩
  · exact Or.inr ⟨hd, hn⟩

end Controller
