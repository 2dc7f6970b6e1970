import ElevatorController.Model.Device

/-!
# Model/Callbacks — the service callbacks, and every request that may change the state

The callbacks other than the property getters and setters, and `Request`: one constructor for each
callback that may change the state, with its arguments.  `Request.perform` is what the stack does
with one — call it — so a run of the application between two passes of the main loop is a list of
requests.
-/

namespace Controller

open BinaryFormat

/-! ## Landing calls, the clock and the device -/

/-- The fields of a landing call that a read answers. -/
structure LandingCallStatus where
  floorNumber : ℕ
  commandChoice : ℕ
  bacnetLiftCarDirection : ℕ
  destination : ℕ
  useFloorText : Bool := false
  deriving DecidableEq

/-- `GetListElevatorGroupLandingCallStatus`: Landing_Call_Control is the last call written, and
Landing_Calls the car's list, an element a call. -/
def getListElevatorGroupLandingCallStatus (cfg : Config) (s : State) (deviceInstance
    elevatorGroupInstance propertyIdentifier rangeIndexOrSequence : ℕ) : Page LandingCallStatus :=
  if deviceInstance ≠ cfg.deviceInstance
      ∨ elevatorGroupInstance ≠ Controller.elevatorGroupInstance then .refuse
  else if propertyIdentifier = propertyIdentifierLandingCallControl then
    if s.lastLandingCallControl.hasValue then
      { element := some
          { floorNumber := s.lastLandingCallControl.floorNumber
            commandChoice := s.lastLandingCallControl.commandChoice
            bacnetLiftCarDirection := s.lastLandingCallControl.direction
            destination := s.lastLandingCallControl.destination }
        more := false }
    else
      { element := some
          { floorNumber := 0
            commandChoice := landingCallCommandDirection
            bacnetLiftCarDirection := liftCarDirectionNone
            destination := 0 }
        more := false }
  else if h : propertyIdentifier = propertyIdentifierLandingCalls
      ∧ rangeIndexOrSequence < s.liftCar.calls.len then
    -- the index is below eight, so its successor does not wrap
    { element := some
        { floorNumber := (s.liftCar.calls.get rangeIndexOrSequence h.2).floorNumber
          commandChoice := landingCallCommandDirection
          bacnetLiftCarDirection := (s.liftCar.calls.get rangeIndexOrSequence h.2).direction
          destination := 0 }
      more := rangeIndexOrSequence + 1 < s.liftCar.calls.len }
  else .refuse

/-- The fields of an assigned landing call. -/
structure AssignedLandingCall where
  floorNumber : ℕ
  direction : ℕ
  deriving DecidableEq

/-- `GetSequenceLiftAssignedLandingCall`: the one car is assigned every call, at its one door. -/
def getSequenceLiftAssignedLandingCall (cfg : Config) (s : State)
    (deviceInstance objectInstance arrayIndexForDoor offset : ℕ) : Page AssignedLandingCall :=
  if deviceInstance ≠ cfg.deviceInstance ∨ objectInstance ≠ liftInstance
      ∨ arrayIndexForDoor ≠ 1 then .refuse
  else if h : offset < s.liftCar.calls.len then
    -- the index is below eight, so its successor does not wrap
    { element := some
        { floorNumber := (s.liftCar.calls.get offset h).floorNumber
          direction := (s.liftCar.calls.get offset h).direction }
      more := offset + 1 < s.liftCar.calls.len }
  else .refuse

/-- `SetElevatorGroupLandingCallControl`. -/
def setElevatorGroupLandingCallControl (cfg : Config) (w : LandingCallWrite) (s : State) :
    Reply × State :=
  if w.deviceInstance ≠ cfg.deviceInstance
      ∨ w.elevatorGroupInstance ≠ elevatorGroupInstance then (.decline, s)
  else
    match w.call with
    | none => (.decline, s)
    | some call =>
      match s.liftCar.addCall call with
      | none => (.decline, s)
      | some car => (.accept, { s with liftCar := car, lastLandingCallControl := w.recorded })

/-- `SetSystemTime`, at a wall-clock time. -/
def setSystemTime (cfg : Config) (now : ℤ) (r : TimeSynchronization) (s : State) : Reply × State :=
  if r.deviceInstance ≠ cfg.deviceInstance then (.decline, s)
  else
    match r.clockOffset cfg.host now with
    | none => (.decline, s)
    | some offset => (.accept, { s with clockOffsetSeconds := offset })

/-- `PasswordAccepted`: the octets compared without an early exit.  A null pointer is `none`. -/
def passwordAccepted (required : List UInt8) (password : Option (List UInt8)) : Bool :=
  if required.length = 0 then true
  else
    match password with
    | none => false
    | some given =>
      if given.length ≠ required.length then false
      else (List.zipWith (· ^^^ ·) given required).foldl (· ||| ·) 0 == 0

/-- `DeviceCommunicationControl`: the stack runs the state machine, the application checks the
password. -/
def deviceCommunicationControl (cfg : Config) (deviceInstance : ℕ)
    (password : Option (List UInt8)) (s : State) : Reply × State :=
  if deviceInstance ≠ cfg.deviceInstance then
    (.declineWith errorCodeOptionalFunctionalityNotSupported, s)
  else if ¬ passwordAccepted cfg.dccPassword password then
    (.declineWith errorCodePasswordFailure, s)
  else (.accept, s)

/-- `RESTART_DELAY_MS`. -/
def restartDelayMs : ℕ := 1000

/-- `RequestRestart`, at a monotonic time in milliseconds: a pending restart keeps its earliest
deadline and its strongest kind. -/
def Restart.request (nowMs : ℕ) (kind : RestartKind) (delayMilliseconds : ℕ) (r : Restart) :
    Restart :=
  let dueAt := (nowMs + delayMilliseconds) % 2 ^ 64
  if r.pending then
    { r with
      dueAtMs := if dueAt < r.dueAtMs then dueAt else r.dueAtMs
      kind := if kind = .cold then .cold else r.kind }
  else { pending := true, dueAtMs := dueAt, kind := kind }

/-- `ReinitializeDevice`: a restart is only armed, and the backup and restore states are the
stack's. -/
def reinitializeDevice (cfg : Config) (nowMs deviceInstance reinitializedState : ℕ)
    (password : Option (List UInt8)) (s : State) : Reply × State :=
  if deviceInstance ≠ cfg.deviceInstance then
    (.declineWith errorCodeOptionalFunctionalityNotSupported, s)
  else if ¬ passwordAccepted cfg.dccPassword password then
    (.declineWith errorCodePasswordFailure, s)
  else if reinitializedState = reinitializeStateColdstart then
    (.accept, { s with restart := s.restart.request nowMs .cold restartDelayMs })
  else if reinitializedState = reinitializeStateWarmstart then
    (.accept, { s with restart := s.restart.request nowMs .warm restartDelayMs })
  else if reinitializedState ≥ reinitializeStateStartBackup
      ∧ reinitializedState ≤ reinitializeStateAbortRestore then (.accept, s)
  else (.declineWith errorCodeOptionalFunctionalityNotSupported, s)

/-! ## The file -/

/-- `ReadFile`: the octets, and whether they reach the end. -/
def readFile (cfg : Config) (deviceInstance file fileStart requestedCount maxFileDataLength : ℕ)
    (s : State) : Option (List UInt8 × Bool) :=
  if deviceInstance ≠ cfg.deviceInstance ∨ file ≠ fileInstance then none
  else some (readFileData s.ivory.data fileStart requestedCount maxFileDataLength)

/-- `WriteFile`, at a wall-clock time, with the position it acknowledges; `none` where the copy runs
past the array, which C leaves undefined. -/
def writeFile (cfg : Config) (now : ℤ) (deviceInstance file : ℕ) (fileStart : ℤ)
    (fileData : List UInt8) (s : State) : Option (Reply × Option ℤ × State) :=
  if deviceInstance ≠ cfg.deviceInstance ∨ file ≠ fileInstance then some (.decline, none, s)
  else
    match writeFileData s.ivory.data fileStart fileData with
    | .fileFull => some (.decline, none, s)
    | .written data ackFileStart =>
      some (.accept, some ackFileStart, { s with
        ivory := { s.ivory with
          data := data
          modificationDate := readDeviceDateTime cfg.host now s.clockOffsetSeconds
            s.ivory.modificationDate } })
    | .overrun => none

/-! ## Backup and restore -/

/-- `PrepareBackup`, at a wall-clock time. -/
def prepareBackup (cfg : Config) (now : ℤ) (deviceInstance : ℕ) (s : State) : Reply × State :=
  if deviceInstance ≠ cfg.deviceInstance then (.decline, s)
  else
    (.accept, { s with
      ivory := { s.ivory with
        data := buildConfigurationImage s.createdAnalogValues s.ivory.data
        modificationDate := readDeviceDateTime cfg.host now s.clockOffsetSeconds
          s.ivory.modificationDate } })

/-- `CompleteBackup`. -/
def completeBackup (cfg : Config) (deviceInstance : ℕ) (s : State) : Reply × State :=
  if deviceInstance ≠ cfg.deviceInstance then (.decline, s) else (.accept, s)

/-- `PrepareRestore`: start from an empty file. -/
def prepareRestore (cfg : Config) (deviceInstance : ℕ) (s : State) : Reply × State :=
  if deviceInstance ≠ cfg.deviceInstance then (.decline, s)
  else (.accept, { s with ivory := { s.ivory with data := s.ivory.data.clear } })

/-- `CompleteRestore`: parse the image; the main loop applies it. -/
def completeRestore (cfg : Config) (deviceInstance : ℕ) (wasAborted : Bool) (s : State) :
    Reply × State :=
  if deviceInstance ≠ cfg.deviceInstance then (.decline, s)
  else if wasAborted then (.accept, s)
  else
    let parsed := parseConfigurationImage s.ivory.data.toList s.restoredAnalogValues
    if parsed.1 then (.accept, { s with restoredAnalogValues := parsed.2, restorePending := true })
    else (.decline, { s with restoredAnalogValues := parsed.2 })

/-! ## Created objects -/

/-- `CreateObject`. -/
def createObject (cfg : Config) (deviceInstance objectType objectInstance : ℕ) (s : State) :
    Reply × State :=
  if deviceInstance ≠ cfg.deviceInstance then (.decline, s)
  else if objectType ≠ objectTypeAnalogValue then (.decline, s)
  else
    match s.createdAnalogValues.create objectInstance with
    | none => (.decline, s)
    | some t => (.accept, { s with createdAnalogValues := t })

/-- `DeleteObject`. -/
def deleteObject (cfg : Config) (deviceInstance objectType objectInstance : ℕ) (s : State) :
    Reply × State :=
  if deviceInstance ≠ cfg.deviceInstance then (.decline, s)
  else if objectType ≠ objectTypeAnalogValue then (.decline, s)
  else
    match s.createdAnalogValues.delete objectInstance with
    | none => (.decline, s)
    | some t => (.accept, { s with createdAnalogValues := t })

/-! ## Requests -/

/-- A callback that may change the state, with its arguments and the times it reads. -/
inductive Request where
  | setPropertyReal (p : PropertyReference) (value : binary32.Value) (priority : ℕ)
  | setPropertyEnumerated (p : PropertyReference) (value priority : ℕ)
  | setPropertyUnsignedInteger (now : ℤ) (p : PropertyReference) (value priority : ℕ)
  | setPropertyBool (p : PropertyReference) (value : Bool)
  | setPropertyNull (p : PropertyReference) (priority : ℕ)
  | setElevatorGroupLandingCallControl (w : LandingCallWrite)
  | setSystemTime (now : ℤ) (r : TimeSynchronization)
  | deviceCommunicationControl (deviceInstance : ℕ) (password : Option (List UInt8))
  | reinitializeDevice (nowMs deviceInstance reinitializedState : ℕ)
      (password : Option (List UInt8))
  | writeFile (now : ℤ) (deviceInstance file : ℕ) (fileStart : ℤ) (fileData : List UInt8)
  | prepareBackup (now : ℤ) (deviceInstance : ℕ)
  | completeBackup (deviceInstance : ℕ)
  | prepareRestore (deviceInstance : ℕ)
  | completeRestore (deviceInstance : ℕ) (wasAborted : Bool)
  | createObject (deviceInstance objectType objectInstance : ℕ)
  | deleteObject (deviceInstance objectType objectInstance : ℕ)

/-- Call the callback; `none` where C leaves the outcome undefined. -/
def Request.perform (cfg : Config) (s : State) : Request → Option (Reply × State)
  | .setPropertyReal p value priority => some (Controller.setPropertyReal cfg p value priority s)
  | .setPropertyEnumerated p value priority =>
    some (Controller.setPropertyEnumerated cfg p value priority s)
  | .setPropertyUnsignedInteger now p value priority =>
    some (Controller.setPropertyUnsignedInteger cfg now p value priority s)
  | .setPropertyBool p value => some (Controller.setPropertyBool cfg p value s)
  | .setPropertyNull p priority => some (Controller.setPropertyNull cfg p priority s)
  | .setElevatorGroupLandingCallControl w =>
    some (Controller.setElevatorGroupLandingCallControl cfg w s)
  | .setSystemTime now r => some (Controller.setSystemTime cfg now r s)
  | .deviceCommunicationControl deviceInstance password =>
    some (Controller.deviceCommunicationControl cfg deviceInstance password s)
  | .reinitializeDevice nowMs deviceInstance reinitializedState password =>
    some (Controller.reinitializeDevice cfg nowMs deviceInstance reinitializedState password s)
  | .writeFile now deviceInstance file fileStart fileData =>
    (Controller.writeFile cfg now deviceInstance file fileStart fileData s).map fun r =>
      (r.1, r.2.2)
  | .prepareBackup now deviceInstance => some (Controller.prepareBackup cfg now deviceInstance s)
  | .completeBackup deviceInstance => some (Controller.completeBackup cfg deviceInstance s)
  | .prepareRestore deviceInstance => some (Controller.prepareRestore cfg deviceInstance s)
  | .completeRestore deviceInstance wasAborted =>
    some (Controller.completeRestore cfg deviceInstance wasAborted s)
  | .createObject deviceInstance objectType objectInstance =>
    some (Controller.createObject cfg deviceInstance objectType objectInstance s)
  | .deleteObject deviceInstance objectType objectInstance =>
    some (Controller.deleteObject cfg deviceInstance objectType objectInstance s)

end Controller
