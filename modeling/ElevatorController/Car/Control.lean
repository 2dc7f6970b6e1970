import ElevatorController.Car.Tick
import ElevatorController.Device.Frame

/-!
# Car/Control — what Landing_Call_Control takes, and what it reads

    write ⟨floor, choice, direction, destination⟩ ─┬─ refused: nothing changes
                                                   └─ accepted: listed, and read back

`SetElevatorGroupLandingCallControl` refuses for four reasons, and remembers the arguments of the
last write it did not refuse.  `Named` and `listed` say what a write asks for without reference to
the order in which the callback checks it.
-/

namespace Controller

/-! ## What a write asks for -/

/-- The write says which way to go: by a destination of the shaft other than the floor, or by a
button. -/
def LandingCallWrite.Directed (w : LandingCallWrite) : Prop :=
  (w.commandChoice = landingCallCommandDestination
      ∧ (1 ≤ w.destination ∧ w.destination ≤ 10) ∧ w.destination ≠ w.floorNumber)
    ∨ (w.commandChoice ≠ landingCallCommandDestination
      ∧ (w.bacnetLiftCarDirection = liftCarDirectionUp
        ∨ w.bacnetLiftCarDirection = liftCarDirectionDown))

/-- The write names a landing, and says which way to go. -/
def LandingCallWrite.Named (w : LandingCallWrite) : Prop :=
  (1 ≤ w.floorNumber ∧ w.floorNumber ≤ 10) ∧ w.Directed

/-- The call the write lists: a destination above the floor is a call up, any other destination a
call down. -/
def LandingCallWrite.listed (w : LandingCallWrite) : LandingCall where
  floorNumber := w.floorNumber
  direction :=
    if w.commandChoice = landingCallCommandDestination then
      if w.floorNumber < w.destination then liftCarDirectionUp else liftCarDirectionDown
    else w.bacnetLiftCarDirection

theorem LandingCallWrite.callDirection_eq_some_iff {w : LandingCallWrite} {direction : ℕ} :
    w.callDirection = some direction ↔ w.Directed ∧ direction = w.listed.direction := by
  have hlowest : liftLowestFloor = 1 := rfl
  have hhighest : liftHighestFloor = 10 := rfl
  rw [callDirection, Directed, listed]
  by_cases hchoice : w.commandChoice = landingCallCommandDestination
  · simp only [hchoice, if_true, true_and, ne_eq, not_true, false_and, or_false]
    by_cases hdest : w.destination < liftLowestFloor ∨ w.destination > liftHighestFloor
        ∨ w.destination = w.floorNumber
    · rw [if_pos hdest]
      exact iff_of_false (Option.some_ne_none _).symm fun h => by omega
    rw [if_neg hdest]
    have hshaft : (1 ≤ w.destination ∧ w.destination ≤ 10) ∧ ¬ w.destination = w.floorNumber := by
      omega
    by_cases habove : w.floorNumber < w.destination
    · simp [habove, hshaft, eq_comm]
    · simp [habove, hshaft, eq_comm]
  · simp only [hchoice, if_false, false_and, ne_eq, not_false_eq_true, true_and, false_or]
    split_ifs with hbutton
    · exact iff_of_false not_false fun h => by tauto
    · rw [Option.some.injEq, eq_comm]
      tauto

/-- **A write asks for its call exactly if it names one.** -/
theorem LandingCallWrite.call_eq_some_iff {w : LandingCallWrite} {call : LandingCall} :
    w.call = some call ↔ w.Named ∧ call = w.listed := by
  have hlowest : liftLowestFloor = 1 := rfl
  have hhighest : liftHighestFloor = 10 := rfl
  rw [LandingCallWrite.call, Named]
  by_cases hfloor : w.floorNumber < liftLowestFloor ∨ w.floorNumber > liftHighestFloor
  · rw [if_pos hfloor]
    exact iff_of_false (Option.some_ne_none _).symm fun h => by omega
  have hserved : 1 ≤ w.floorNumber ∧ w.floorNumber ≤ 10 := by omega
  rw [if_neg hfloor, Option.map_eq_some_iff, and_iff_right hserved]
  constructor
  · rintro ⟨direction, hdirection, rfl⟩
    obtain ⟨hdirected, rfl⟩ := callDirection_eq_some_iff.mp hdirection
    exact ⟨hdirected, rfl⟩
  · rintro ⟨hdirected, rfl⟩
    exact ⟨_, callDirection_eq_some_iff.mpr ⟨hdirected, rfl⟩, rfl⟩

/-! ## Accepting it -/

section

variable {cfg : Config} {w : LandingCallWrite} {s : State}

/-- **A write is accepted exactly if it names a call that is listed or finds room.** -/
theorem landingCall_accepted_iff (hdevice : w.deviceInstance = cfg.deviceInstance)
    (hgroup : w.elevatorGroupInstance = elevatorGroupInstance) :
    (setElevatorGroupLandingCallControl cfg w s).1.accepted = true ↔
      w.Named ∧ (w.listed ∈ s.liftCar.calls.toList ∨ s.liftCar.calls.toList.length < 8) := by
  rw [setElevatorGroupLandingCallControl, if_neg (by simp [hdevice, hgroup])]
  cases hcall : w.call with
  | none =>
    refine iff_of_false (by simp) fun h => ?_
    exact absurd (LandingCallWrite.call_eq_some_iff.mpr ⟨h.1, rfl⟩) (by simp [hcall])
  | some call =>
    obtain ⟨hnamed, rfl⟩ := LandingCallWrite.call_eq_some_iff.mp hcall
    cases hadd : s.liftCar.addCall w.listed with
    | none =>
      obtain ⟨hnew, hfull⟩ := LiftCar.addCall_eq_none.mp hadd
      refine iff_of_false (by simp [hadd]) fun h => h.2.elim hnew ?_
      rw [Buffer.length_toList]
      exact not_lt.mpr hfull
    | some car =>
      refine iff_of_true (by simp [hadd]) ⟨hnamed, ?_⟩
      obtain ⟨hlisted, -⟩ | ⟨-, hroom, -⟩ := LiftCar.addCall_eq_some.mp hadd
      · exact Or.inl hlisted
      · exact Or.inr (by rwa [Buffer.length_toList])

/-- **What an accepted write leaves**: the call at the end of the list, unless it was listed. -/
theorem landingCall_effect (h : (setElevatorGroupLandingCallControl cfg w s).1.accepted = true) :
    let car' := (setElevatorGroupLandingCallControl cfg w s).2.liftCar
    car'.calls.toList = (if w.listed ∈ s.liftCar.calls.toList then s.liftCar.calls.toList
        else s.liftCar.calls.toList ++ [w.listed])
      ∧ car'.position = s.liftCar.position ∧ car'.phase = s.liftCar.phase
      ∧ car'.movingDirection = s.liftCar.movingDirection
      ∧ car'.doorStatus = s.liftCar.doorStatus ∧ car'.phaseDeadline = s.liftCar.phaseDeadline := by
  obtain hw | ⟨call, car, hcall, hadd, hw⟩ := setElevatorGroupLandingCallControl_cases cfg w s
  · rw [hw] at h
    cases h
  obtain ⟨-, rfl⟩ := LandingCallWrite.call_eq_some_iff.mp hcall
  rw [hw]
  obtain ⟨hlisted, rfl⟩ | ⟨hnew, hroom, rfl⟩ := LiftCar.addCall_eq_some.mp hadd
  · exact ⟨(if_pos hlisted).symm, rfl, rfl, rfl, rfl, rfl⟩
  · refine ⟨?_, rfl, rfl, rfl, rfl, rfl⟩
    rw [if_neg hnew]
    exact Buffer.toList_push _ _ _

end

/-! ## Reading it back -/

/-- The last write accepted since power-on or COLDSTART, after one more step of a run. -/
def lastWriteStep (cfg : Config) (last : Option LandingCallWrite) :
    State × Event → Option LandingCallWrite
  | (s, .request (.setElevatorGroupLandingCallControl w)) =>
    if (setElevatorGroupLandingCallControl cfg w s).1.accepted then some w else last
  | (s, .action (.restart nowMs)) =>
    if (s.restart.due nowMs).1 = some .cold then none else last
  | _ => last

/-- The last write that a run accepted since power-on or COLDSTART, from a state where there is
none. -/
def lastWrite (cfg : Config) (es : List Event) (s : State) : Option LandingCallWrite :=
  (Runs.steps (Event.step cfg) es s).foldl (lastWriteStep cfg) none

/-- What Landing_Call_Control reads, by the last write accepted: without one, floor 0 and no
direction. -/
def LandingCallStatus.ofLastWrite : Option LandingCallWrite → LandingCallStatus
  | none => ⟨0, landingCallCommandDirection, liftCarDirectionNone, 0, false⟩
  | some w => ⟨w.floorNumber, w.commandChoice, w.bacnetLiftCarDirection, w.destination, false⟩

/-- The state remembers the write. -/
def State.Remembers (s : State) : Option LandingCallWrite → Prop
  | none => s.lastLandingCallControl.hasValue = false
  | some w => s.lastLandingCallControl = w.recorded

theorem State.Remembers.congr {s s' : State} {last : Option LandingCallWrite}
    (h : s.Remembers last) (hsame : s'.lastLandingCallControl = s.lastLandingCallControl) :
    s'.Remembers last := by
  cases last with
  | none => exact (congrArg _ hsame).trans h
  | some w => exact hsame.trans h

/-- **Every event keeps the state remembering the last write accepted.** -/
theorem State.Remembers.step (cfg : Config) (s : State) (e : Event)
    (last : Option LandingCallWrite) (h : s.Remembers last) :
    (Event.step cfg s e).Remembers (lastWriteStep cfg last (s, e)) := by
  cases e with
  | action a =>
    cases a with
    | restore addObject =>
      refine h.congr ?_
      rw [Event.step, Action.perform, restoreBlock]
      split <;> rfl
    | liftCarTick now => exact h.congr rfl
    | passengerAlarm now =>
      refine h.congr ?_
      rw [Event.step, Action.perform, passengerAlarmBlock]
      split <;> rfl
    | restart nowMs =>
      rw [Event.step, Action.perform, restartBlock, lastWriteStep]
      rcases (s.restart.due nowMs).1 with _ | _ | _
      · exact h.congr rfl
      · exact h.congr rfl
      · exact rfl
    | key command => cases command <;> exact h.congr rfl
  | request r =>
    cases r with
    | setElevatorGroupLandingCallControl w =>
      rw [lastWriteStep]
      change (setElevatorGroupLandingCallControl cfg w s).2.Remembers _
      obtain hw | ⟨call, car, -, -, hw⟩ := setElevatorGroupLandingCallControl_cases cfg w s
      · rw [hw]
        exact h
      · rw [hw]
        exact rfl
    | _ => exact h.congr (Request.lastLandingCallControl_step cfg s (by rintro _ ⟨⟩))

theorem getListElevatorGroupLandingCallStatus_control {cfg : Config} {s : State}
    {last : Option LandingCallWrite} (h : s.Remembers last) (rangeIndexOrSequence : ℕ) :
    getListElevatorGroupLandingCallStatus cfg s cfg.deviceInstance elevatorGroupInstance
        propertyIdentifierLandingCallControl rangeIndexOrSequence
      = ⟨some (.ofLastWrite last), false⟩ := by
  rw [getListElevatorGroupLandingCallStatus, if_neg (by simp), if_pos rfl]
  cases last with
  | none =>
    have hnone : s.lastLandingCallControl.hasValue = false := h
    rw [hnone]
    rfl
  | some w =>
    have hsome : s.lastLandingCallControl = w.recorded := h
    rw [hsome]
    rfl

/-- **A landing-call write is accepted exactly when it should be, and reads back.**  For every state
and every write to this device and group, it is accepted exactly if it names a call and the call is
listed or fewer than eight are; an accepted write appends its call, unless it was listed, and leaves
the car where it was.  After every run from power-on a read of Landing_Call_Control answers the
arguments of the last write accepted since power-on or COLDSTART, and floor 0 with no direction if
there is none. -/
theorem landing_call_control (cfg : Config) :
    (∀ (w : LandingCallWrite) (s : State), w.deviceInstance = cfg.deviceInstance →
      w.elevatorGroupInstance = elevatorGroupInstance →
      let answer := setElevatorGroupLandingCallControl cfg w s
      let calls := s.liftCar.calls.toList
      let car' := answer.2.liftCar
      (answer.1.accepted = true ↔ w.Named ∧ (w.listed ∈ calls ∨ calls.length < 8))
      ∧ (answer.1.accepted = true →
        car'.calls.toList = (if w.listed ∈ calls then calls else calls ++ [w.listed])
        ∧ car'.position = s.liftCar.position ∧ car'.phase = s.liftCar.phase
        ∧ car'.movingDirection = s.liftCar.movingDirection
        ∧ car'.doorStatus = s.liftCar.doorStatus
        ∧ car'.phaseDeadline = s.liftCar.phaseDeadline))
    ∧ ∀ (start : ℤ) (es : List Event) (rangeIndexOrSequence : ℕ),
      getListElevatorGroupLandingCallStatus cfg
          (Runs.run (Event.step cfg) es (.powerOn cfg start)) cfg.deviceInstance
          elevatorGroupInstance propertyIdentifierLandingCallControl rangeIndexOrSequence
        = ⟨some (.ofLastWrite (lastWrite cfg es (.powerOn cfg start))), false⟩ := by
  refine ⟨fun w s hdevice hgroup => ⟨landingCall_accepted_iff hdevice hgroup, landingCall_effect⟩,
    fun start es rangeIndexOrSequence => ?_⟩
  have hremembers : State.Remembers (Runs.run (Event.step cfg) es (.powerOn cfg start))
      (lastWrite cfg es (.powerOn cfg start)) :=
    Runs.run_history (R := State.Remembers) (State.Remembers.step cfg) es rfl
  exact getListElevatorGroupLandingCallStatus_control hremembers rangeIndexOrSequence

/-- A call from floor 5 to floor 9, at power-on. -/
theorem landing_call_control_destination :
    let cfg := Config.standard .utc
    let w : LandingCallWrite := ⟨389014, 1, 5, landingCallCommandDestination, 0, 9⟩
    (setElevatorGroupLandingCallControl cfg w (.powerOn cfg 0)).1.accepted = true
      ∧ (setElevatorGroupLandingCallControl cfg w (.powerOn cfg 0)).2.liftCar.calls.toList
        = [⟨5, liftCarDirectionUp⟩] := by
  intro cfg w
  obtain ⟨hiff, heffect⟩ := (landing_call_control cfg).1 w (.powerOn cfg 0) rfl rfl
  have hdirected : w.Directed := Or.inl ⟨rfl, by decide, by decide⟩
  have haccepted := hiff.mpr ⟨⟨by decide, hdirected⟩, Or.inr (by decide)⟩
  exact ⟨haccepted, (heffect haccepted).1⟩

end Controller
