import ElevatorController.Model.MainLoop

/-!
# Car/Tick — what one tick, and one landing-call write, can do to the car

`LiftCar.Ticks` names the six things a tick can do, and `tick_ticks` says a tick does one of them;
every later fact about ticks is a case analysis on it.  `addCall_eq_some` is the same for a write.
-/

namespace Controller

namespace LiftCar

variable {car car' : LiftCar} {now : ℤ} {call : LandingCall} {floor : ℕ}

theorem hasCallAt_iff :
    car.hasCallAt floor = true ↔ ∃ c ∈ car.calls.toList, c.floorNumber = floor := by
  simp [hasCallAt, Buffer.any]

theorem not_hasCallAt_iff :
    ¬ car.hasCallAt floor = true ↔ ∀ c ∈ car.calls.toList, c.floorNumber ≠ floor := by
  rw [hasCallAt_iff]
  push Not
  rfl

/-! ## One tick -/

/-- **What a tick can do.** -/
inductive Ticks (now : ℤ) (car : LiftCar) : LiftCar × List StackCall → Prop
  /-- Nothing: no call, or the phase is not over. -/
  | wait (h : car.phase = .idle ∧ car.calls.len = 0
      ∨ car.phase ≠ .idle ∧ now < car.phaseDeadline) : Ticks now car (car, [])
  /-- Open the door for a call at the floor the idle car is on. -/
  | opens (hphase : car.phase = .idle) (hcall : car.hasCallAt car.position = true) :
    Ticks now car (car.openDoor now)
  /-- Leave for the first call. -/
  | departs (hphase : car.phase = .idle) (hlen : 0 < car.calls.len)
      (hcall : ¬ car.hasCallAt car.position = true) : Ticks now car (car.depart now hlen)
  /-- Arrive at a floor that has a call, and stop. -/
  | stops (hphase : car.phase = .moving) (hdue : car.phaseDeadline ≤ now)
      (hcall : car.hasCallAt car.nextFloor = true) :
    Ticks now car ((car.atNextFloor.openDoor now).1,
      liftCarPropertyChanged propertyIdentifierCarPosition :: (car.atNextFloor.openDoor now).2)
  /-- Arrive at a floor that has none, and travel on. -/
  | passes (hphase : car.phase = .moving) (hdue : car.phaseDeadline ≤ now)
      (hcall : ¬ car.hasCallAt car.nextFloor = true) :
    Ticks now car ({ car.atNextFloor with
      phaseDeadline := car.phaseDeadline + milliseconds liftMillisecondsPerFloor },
      [liftCarPropertyChanged propertyIdentifierCarPosition])
  /-- Close the door. -/
  | closes (hphase : car.phase = .doorOpen) (hdue : car.phaseDeadline ≤ now) :
    Ticks now car car.closeDoor

theorem tick_ticks (now : ℤ) (car : LiftCar) : car.Ticks now (car.tick now) := by
  rw [tick]
  split
  · rename_i hphase
    split_ifs with hlen hcall
    · exact .wait (Or.inl ⟨hphase, hlen⟩)
    · exact .opens hphase hcall
    · exact .departs hphase _ hcall
  · rename_i hphase
    split_ifs with hdue
    · exact .wait (Or.inr ⟨by simp [hphase], hdue⟩)
    · rw [arrive]
      split_ifs with hcall
      · exact .stops hphase (not_lt.mp hdue) hcall
      · exact .passes hphase (not_lt.mp hdue) hcall
  · rename_i hphase
    split_ifs with hdue
    · exact .wait (Or.inr ⟨by simp [hphase], hdue⟩)
    · exact .closes hphase (not_lt.mp hdue)

/-- The calls an opened door leaves: those of other floors, in their order. -/
theorem toList_calls_openDoor (now : ℤ) (car : LiftCar) : (car.openDoor now).1.calls.toList
    = car.calls.toList.filter fun c => c.floorNumber != car.position :=
  Buffer.toList_retain _ _

/-! ## One write -/

/-- **What listing a call can do**: nothing if it is listed, else append it if there is room. -/
theorem addCall_eq_some : car.addCall call = some car' ↔
    (call ∈ car.calls.toList ∧ car' = car) ∨ (call ∉ car.calls.toList ∧
      ∃ h : car.calls.len < maxLandingCalls,
        car' = { car with calls := car.calls.push call h }) := by
  have hany : car.calls.any (· == call) = true ↔ call ∈ car.calls.toList := by
    simp [Buffer.any]
  rw [addCall]
  split_ifs with hlisted hroom
  · have hmem : call ∈ car.calls.toList := hany.mp hlisted
    simp [hmem, eq_comm]
  · have hmem : call ∉ car.calls.toList := fun h => hlisted (hany.mpr h)
    simp [hmem, hroom, eq_comm]
  · have hmem : call ∉ car.calls.toList := fun h => hlisted (hany.mpr h)
    simp [hmem, hroom]

theorem addCall_eq_none : car.addCall call = none ↔
    call ∉ car.calls.toList ∧ maxLandingCalls ≤ car.calls.len := by
  rw [addCall]
  split_ifs with hlisted hroom
  · simp_all [Buffer.any]
  · simp [hroom]
  · simp_all [Buffer.any]

end LiftCar

/-- A call that a write may list has a floor and a button of this installation. -/
theorem LandingCallWrite.call_eq_some {w : LandingCallWrite} {call : LandingCall}
    (h : w.call = some call) : call.floorNumber = w.floorNumber ∧
      (liftLowestFloor ≤ call.floorNumber ∧ call.floorNumber ≤ liftHighestFloor) ∧
      (call.direction = liftCarDirectionUp ∨ call.direction = liftCarDirectionDown) := by
  rw [LandingCallWrite.call] at h
  split_ifs at h with hfloor
  obtain ⟨direction, hdir, rfl⟩ := Option.map_eq_some_iff.mp h
  refine ⟨rfl, by simp only; omega, ?_⟩
  rw [LandingCallWrite.callDirection] at hdir
  split_ifs at hdir with h1 h2 h3 h4
  · exact Or.inl (Option.some.inj hdir).symm
  · exact Or.inr (Option.some.inj hdir).symm
  · rw [← Option.some.inj hdir]
    simp only
    tauto

/-! ## Runs of the car -/

/-- What may happen to the car: a write of Landing_Call_Control, a tick at some time, or a
COLDSTART. -/
inductive CarEvent where
  | write (w : LandingCallWrite)
  | tick (now : ℤ)
  | coldstart

/-- One event of the car. -/
def CarEvent.step (cfg : Config) (s : State) : CarEvent → State
  | .write w => (setElevatorGroupLandingCallControl cfg w s).2
  | .tick now => (liftCarTick now s).1
  | .coldstart => s.coldstart

/-- **What a write can do**: nothing, or list the call it asks for and be recorded. -/
theorem setElevatorGroupLandingCallControl_cases (cfg : Config) (w : LandingCallWrite) (s : State) :
    setElevatorGroupLandingCallControl cfg w s = (.decline, s) ∨
      ∃ call car, w.call = some call ∧ s.liftCar.addCall call = some car ∧
        setElevatorGroupLandingCallControl cfg w s
          = (.accept, { s with liftCar := car, lastLandingCallControl := w.recorded }) := by
  rw [setElevatorGroupLandingCallControl]
  split
  · exact Or.inl rfl
  split
  · exact Or.inl rfl
  rename_i call hcall
  split
  · exact Or.inl rfl
  rename_i car hcar
  exact Or.inr ⟨call, car, hcall, hcar, rfl⟩

end Controller
