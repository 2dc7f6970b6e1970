import ElevatorController.Machinery.Buffer
import ElevatorController.Model.Protocol

/-!
# Model/Car — the elevator car behind Lift 1, and its landing calls

    Idle ──call elsewhere──▸ Moving ──floor with a call──▸ DoorOpen ──dwell over──▸ Idle
      └───────────── call at the car's own floor ────────────┘

The car serves its calls first come, first served, and stops on the way at any floor that also has
one.  Times are points of the steady clock in nanoseconds.
-/

namespace Controller

def liftLowestFloor : ℕ := 1
def liftHighestFloor : ℕ := 10

/-- Where the car is at power-on. -/
def liftStartFloor : ℕ := 3

/-- The travel time between adjacent floors. -/
def liftMillisecondsPerFloor : ℤ := 2000

/-- How long the door stays open at a stop. -/
def liftDoorDwellMilliseconds : ℤ := 3000

/-- The landing calls the group can hold. -/
def maxLandingCalls : ℕ := 8

/-- A duration of `n` milliseconds on the steady clock. -/
def milliseconds (n : ℤ) : ℤ := n * 1000000

inductive LiftCarPhase where
  | idle
  | moving
  | doorOpen
  deriving DecidableEq

/-- A landing call: a floor, and the button the passenger pressed there. -/
structure LandingCall where
  floorNumber : ℕ
  direction : ℕ
  deriving DecidableEq

/-- The car; the defaults are its state at power-on. -/
structure LiftCar where
  position : ℕ := liftStartFloor
  movingDirection : ℕ := liftCarDirectionStopped
  doorStatus : ℕ := doorStatusClosed
  phase : LiftCarPhase := .idle
  phaseDeadline : ℤ := 0
  calls : Buffer LandingCall maxLandingCalls := .empty fun _ => ⟨0, 0⟩

/-- `LiftCarPropertyChanged`: tell the stack a car property changed. -/
def liftCarPropertyChanged (propertyIdentifier : ℕ) : StackCall :=
  .updateValue objectTypeLift liftInstance propertyIdentifier

namespace LiftCar

/-- `LiftCarOpenDoor`: stop, open the door, and answer every call at this floor. -/
def openDoor (now : ℤ) (car : LiftCar) : LiftCar × List StackCall :=
  ({ car with
      calls := car.calls.retain fun call => call.floorNumber != car.position
      movingDirection := liftCarDirectionStopped
      doorStatus := doorStatusOpened
      phase := .doorOpen
      phaseDeadline := now + milliseconds liftDoorDwellMilliseconds },
    [liftCarPropertyChanged propertyIdentifierCarMovingDirection,
      liftCarPropertyChanged propertyIdentifierCarDoorStatus])

/-- `LiftCarHasCallAt`. -/
def hasCallAt (floorNumber : ℕ) (car : LiftCar) : Bool :=
  car.calls.any fun call => call.floorNumber == floorNumber

/-- The departure: head for the first call's floor. -/
def depart (now : ℤ) (car : LiftCar) (h : 0 < car.calls.len) : LiftCar × List StackCall :=
  ({ car with
      movingDirection :=
        if (car.calls.get 0 h).floorNumber > car.position then liftCarDirectionUp
        else liftCarDirectionDown
      phase := .moving
      phaseDeadline := now + milliseconds liftMillisecondsPerFloor },
    [liftCarPropertyChanged propertyIdentifierCarMovingDirection])

/-- The next floor in the direction of travel, in `uint8_t` arithmetic. -/
def nextFloor (car : LiftCar) : ℕ :=
  if car.movingDirection = liftCarDirectionUp then (car.position + 1) % 256
  else (car.position + 255) % 256

/-- The car at the next floor. -/
def atNextFloor (car : LiftCar) : LiftCar := { car with position := car.nextFloor }

/-- The arrival at the next floor: stop there if it has a call, else travel on. -/
def arrive (now : ℤ) (car : LiftCar) : LiftCar × List StackCall :=
  let positionChanged := liftCarPropertyChanged propertyIdentifierCarPosition
  if car.atNextFloor.hasCallAt car.nextFloor then
    ((car.atNextFloor.openDoor now).1, positionChanged :: (car.atNextFloor.openDoor now).2)
  else
    ({ car.atNextFloor with
        phaseDeadline := car.phaseDeadline + milliseconds liftMillisecondsPerFloor },
      [positionChanged])

/-- The door closes. -/
def closeDoor (car : LiftCar) : LiftCar × List StackCall :=
  ({ car with doorStatus := doorStatusClosed, phase := .idle },
    [liftCarPropertyChanged propertyIdentifierCarDoorStatus])

/-- `LiftCarTick`: advance the car by the time that has passed. -/
def tick (now : ℤ) (car : LiftCar) : LiftCar × List StackCall :=
  match car.phase with
  | .idle =>
    if h : car.calls.len = 0 then (car, [])
    else if car.hasCallAt car.position then car.openDoor now
    else car.depart now (Nat.pos_of_ne_zero h)
  | .moving => if now < car.phaseDeadline then (car, []) else car.arrive now
  | .doorOpen => if now < car.phaseDeadline then (car, []) else car.closeDoor

end LiftCar

/-! ## A write of Landing_Call_Control -/

/-- The arguments of a write that the callback reads. -/
structure LandingCallWrite where
  deviceInstance : ℕ
  elevatorGroupInstance : ℕ
  floorNumber : ℕ
  commandChoice : ℕ
  bacnetLiftCarDirection : ℕ
  destination : ℕ
  deriving DecidableEq

/-- The button the passenger pressed: a direction call says it, a destination call implies it.  No
button at all refuses the write. -/
def LandingCallWrite.callDirection (w : LandingCallWrite) : Option ℕ :=
  if w.commandChoice = landingCallCommandDestination then
    if w.destination < liftLowestFloor ∨ w.destination > liftHighestFloor
        ∨ w.destination = w.floorNumber then none
    else if w.destination > w.floorNumber then some liftCarDirectionUp
    else some liftCarDirectionDown
  else if w.bacnetLiftCarDirection ≠ liftCarDirectionUp
      ∧ w.bacnetLiftCarDirection ≠ liftCarDirectionDown then none
  else some w.bacnetLiftCarDirection

/-- The call a write asks for, if the installation has its landing and its button. -/
def LandingCallWrite.call (w : LandingCallWrite) : Option LandingCall :=
  if w.floorNumber < liftLowestFloor ∨ w.floorNumber > liftHighestFloor then none
  else w.callDirection.map fun direction => ⟨w.floorNumber, direction⟩

/-- List a call.  The same button pressed twice is one call; a full list takes no other. -/
def LiftCar.addCall (car : LiftCar) (call : LandingCall) : Option LiftCar :=
  if car.calls.any (· == call) then some car
  else if h : car.calls.len < maxLandingCalls then
    some { car with calls := car.calls.push call h }
  else none

/-- The last landing call written; the defaults are those of power-on. -/
structure LastLandingCallControl where
  hasValue : Bool := false
  floorNumber : ℕ := 0
  commandChoice : ℕ := 0
  direction : ℕ := 0
  destination : ℕ := 0
  deriving DecidableEq

/-- What a write leaves in Landing_Call_Control. -/
def LandingCallWrite.recorded (w : LandingCallWrite) : LastLandingCallControl where
  hasValue := true
  floorNumber := w.floorNumber
  commandChoice := w.commandChoice
  direction := w.bacnetLiftCarDirection
  destination := w.destination

end Controller
