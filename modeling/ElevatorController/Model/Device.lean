import ElevatorController.Model.Car
import ElevatorController.Model.Outputs
import ElevatorController.Model.Image

/-!
# Model/Device — the whole application state, and the property callbacks

`State` is every global the callbacks and the main loop share.  A "get" callback is a function of it
(`none` declines); a "set" callback answers a `Reply` and the state it leaves.
-/

namespace Controller

open BinaryFormat

/-! ## Configuration and state -/

def vendorIdentifier : ℕ := 389
def maxApduLength : ℕ := 1476
def multiStateInputNumberOfStates : ℕ := 3
def machineRoomIdValue : ℕ := 100
def liftNumberOfDoors : ℕ := 1

/-- `ANALOG_INPUT_COV_INCREMENT`. -/
def analogInputCovIncrement : binary32.Value := binary32.round 1

/-- What is fixed at start-up: the command line, the environment and the host. -/
structure Config where
  deviceInstance : ℕ
  /-- `g_dccPassword`, a C string. -/
  dccPassword : List UInt8
  simulatedAlarms : Bool
  passengerAlarmPeriodSeconds : ℤ
  bacnetIpUdpPort : ℕ
  host : Host

/-- The command line's defaults. -/
def Config.standard (host : Host) : Config where
  deviceInstance := 389014
  dccPassword := []
  simulatedAlarms := true
  passengerAlarmPeriodSeconds := 30
  bacnetIpUdpPort := 47808
  host := host

inductive RestartKind where
  | warm
  | cold
  deriving DecidableEq

/-- `g_restartPending`, `g_restartDueAtMs` and `g_restartKind`. -/
structure Restart where
  pending : Bool := false
  dueAtMs : ℕ := 0
  kind : RestartKind := .warm
  deriving DecidableEq

/-- The three commandable outputs. -/
inductive Output where
  | analog
  | binary
  | multiState
  deriving DecidableEq

structure State where
  analogInput1Value : binary32.Value
  /-- `g_analogOutput`, `g_binaryOutput` and `g_multiStateOutput`. -/
  outputs : Output → Commandable
  createdAnalogValues : CreatedAnalogValues
  liftOutOfService : Bool
  liftPassengerAlarm : Bool
  escalatorOutOfService : Bool
  escalatorPassengerAlarm : Bool
  escalatorPowerMode : Bool
  liftCar : LiftCar
  lastLandingCallControl : LastLandingCallControl
  ivory : Ivory
  restoredAnalogValues : RestoredAnalogValues
  restorePending : Bool
  clockOffsetSeconds : ℤ
  restart : Restart
  /-- `lastAlarmToggle` of the main loop. -/
  lastAlarmToggle : ℤ

/-- Analog Input 1 at power-on: `21.5f`. -/
def analogInput1AtPowerOn : binary32.Value := binary32.round (43 / 2)

/-- The outputs at power-on, by their Relinquish_Defaults. -/
def outputAtPowerOn : Output → Commandable
  | .analog => .atPowerOn 20
  | .binary => .atPowerOn 0
  | .multiState => .atPowerOn 1

/-- The state when the main loop starts, at a wall-clock time: Ivory is created empty and
stamped. -/
def State.powerOn (cfg : Config) (now : ℤ) : State where
  analogInput1Value := analogInput1AtPowerOn
  outputs := outputAtPowerOn
  createdAnalogValues := .atPowerOn
  liftOutOfService := false
  liftPassengerAlarm := false
  escalatorOutOfService := false
  escalatorPassengerAlarm := false
  escalatorPowerMode := true
  liftCar := {}
  lastLandingCallControl := {}
  ivory :=
    { data := .empty fun _ => 0
      archive := false
      modificationDate := readDeviceDateTime cfg.host now 0 {} }
  restoredAnalogValues := .empty fun _ => ⟨0, binary32.round 0⟩
  restorePending := false
  clockOffsetSeconds := 0
  restart := {}
  lastAlarmToggle := now

/-! ## References to properties -/

/-- A property, or one element of it, as the callbacks receive it; an index that is not used is
`none`. -/
structure PropertyReference where
  deviceInstance : ℕ
  objectType : ℕ
  objectInstance : ℕ
  propertyIdentifier : ℕ
  propertyArrayIndex : Option ℕ
  deriving DecidableEq

/-- The reference is to this property of this object. -/
abbrev PropertyReference.names (p : PropertyReference)
    (objectType objectInstance propertyIdentifier : ℕ) : Prop :=
  p.objectType = objectType ∧ p.objectInstance = objectInstance
    ∧ p.propertyIdentifier = propertyIdentifier

/-- `GetCommandable`. -/
def getCommandable (objectType objectInstance : ℕ) : Option Output :=
  if objectType = objectTypeAnalogOutput ∧ objectInstance = analogOutputInstance then some .analog
  else if objectType = objectTypeBinaryOutput ∧ objectInstance = binaryOutputInstance then
    some .binary
  else if objectType = objectTypeMultiStateOutput ∧ objectInstance = multiStateOutputInstance then
    some .multiState
  else none

/-- A typed getter's answer for a commandable output: a null slot declines, and what is neither a
slot nor the Relinquish_Default falls through (`none`). -/
def Commandable.serve {α : Type} (cast : binary64.Value → α) (c : Commandable)
    (p : PropertyReference) : Option (Option α) :=
  match c.readPrioritySlot p.propertyIdentifier p.propertyArrayIndex with
  | some (slotIsSet, slotValue) => some (if slotIsSet then some (cast slotValue) else none)
  | none =>
    if p.propertyIdentifier = propertyIdentifierRelinquishDefault then
      some (some (cast c.relinquishDefault))
    else none

/-- The same, where the reference is to the commandable output of one object type. -/
def State.serveOutput {α : Type} (cast : binary64.Value → α) (s : State) (objectType : ℕ)
    (p : PropertyReference) : Option (Option α) :=
  if p.objectType = objectType then
    (getCommandable p.objectType p.objectInstance).bind fun o => (s.outputs o).serve cast p
  else none

/-! ## The getters -/

/-- `GetPropertyReal`. -/
def getPropertyReal (cfg : Config) (s : State) (p : PropertyReference) : Option binary32.Value :=
  if p.deviceInstance ≠ cfg.deviceInstance then none
  else if p.names objectTypeAnalogInput analogInputInstance propertyIdentifierPresentValue then
    some s.analogInput1Value
  else if p.names objectTypeAnalogInput analogInputInstance propertyIdentifierCovIncrement then
    some analogInputCovIncrement
  else
    match s.serveOutput (·.convert binary32) objectTypeAnalogOutput p with
    | some answer => answer
    | none =>
      if p.objectType = objectTypeAnalogValue
          ∧ p.propertyIdentifier = propertyIdentifierPresentValue then
        (s.createdAnalogValues.findCreated p.objectInstance).map fun slot =>
          (s.createdAnalogValues slot).presentValue
      else none

/-- `GetPropertyEnumerated`. -/
def getPropertyEnumerated (cfg : Config) (s : State) (p : PropertyReference) : Option ℕ :=
  if p.deviceInstance ≠ cfg.deviceInstance then none
  else if p.names objectTypeBinaryInput binaryInputInstance propertyIdentifierPresentValue then
    some 1
  else if p.names objectTypeBinaryInput binaryInputInstance propertyIdentifierPolarity then
    some polarityNormal
  else
    match s.serveOutput castUnsigned objectTypeBinaryOutput p with
    | some answer => answer
    | none =>
      if p.names objectTypeBinaryOutput binaryOutputInstance propertyIdentifierPolarity then
        some polarityNormal
      else if p.names objectTypeAnalogInput analogInputInstance propertyIdentifierUnits
          ∨ p.names objectTypeAnalogOutput analogOutputInstance propertyIdentifierUnits then
        some engineeringUnitsDegreesCelsius
      else if p.names objectTypeNetworkPort networkPortInstance propertyIdentifierBacnetIpMode then
        some bacnetIpModeNormal
      else if p.names objectTypeElevatorGroup elevatorGroupInstance propertyIdentifierGroupMode then
        some liftGroupModeNormal
      else if p.names objectTypeLift liftInstance propertyIdentifierCarMovingDirection then
        some s.liftCar.movingDirection
      else if p.names objectTypeLift liftInstance propertyIdentifierCarDoorStatus
          ∧ ∃ index ∈ p.propertyArrayIndex, 1 ≤ index ∧ index ≤ liftNumberOfDoors then
        some s.liftCar.doorStatus
      else if p.names objectTypeEscalator escalatorInstance
          propertyIdentifierOperationDirection then
        some escalatorOperationDirectionUpRatedSpeed
      else if p.names objectTypeEscalator escalatorInstance propertyIdentifierEscalatorMode then
        some escalatorModeUp
      else none

/-- `GetPropertyUnsignedInteger`. -/
def getPropertyUnsignedInteger (cfg : Config) (s : State) (p : PropertyReference) : Option ℕ :=
  if p.deviceInstance ≠ cfg.deviceInstance then none
  else if p.names objectTypeMultiStateInput multiStateInputInstance
      propertyIdentifierPresentValue then some 1
  else if p.names objectTypeMultiStateInput multiStateInputInstance
      propertyIdentifierNumberOfStates then some multiStateInputNumberOfStates
  else if p.names objectTypeMultiStateInput multiStateInputInstance propertyIdentifierStateText
      ∧ p.propertyArrayIndex = some 0 then some multiStateInputNumberOfStates
  else if p.names objectTypeDevice cfg.deviceInstance propertyIdentifierVendorIdentifier then
    some vendorIdentifier
  else if p.names objectTypeNetworkPort networkPortInstance propertyIdentifierApduLength then
    some maxApduLength
  else if p.names objectTypeNetworkPort networkPortInstance propertyIdentifierReferencePort then
    some networkPortReferencePortNone
  else if p.names objectTypeNetworkPort networkPortInstance propertyIdentifierBacnetIpUdpPort then
    some cfg.bacnetIpUdpPort
  else if p.names objectTypeLift liftInstance propertyIdentifierCarPosition then
    some s.liftCar.position
  else if p.objectType = objectTypeLift ∧ p.objectInstance = liftInstance
      ∧ p.propertyArrayIndex = some 0
      ∧ (p.propertyIdentifier = propertyIdentifierCarDoorStatus
        ∨ p.propertyIdentifier = propertyIdentifierAssignedLandingCalls
        ∨ p.propertyIdentifier = propertyIdentifierRegisteredCarCall
        ∨ p.propertyIdentifier = propertyIdentifierLandingDoorStatus) then
    some liftNumberOfDoors
  else if p.names objectTypePositiveIntegerValue machineRoomIdInstance
      propertyIdentifierPresentValue then some machineRoomIdValue
  else
    match s.serveOutput castUnsigned objectTypeMultiStateOutput p with
    | some answer => answer
    | none =>
      if p.names objectTypeMultiStateOutput multiStateOutputInstance
          propertyIdentifierNumberOfStates then some multiStateOutputNumberOfStates
      else if p.names objectTypeFile fileInstance propertyIdentifierFileSize then
        some s.ivory.data.len
      else none

/-- `GetPropertyBool`; for an element of a Priority_Array it answers whether the slot is null. -/
def getPropertyBool (cfg : Config) (s : State) (p : PropertyReference) : Option Bool :=
  if p.deviceInstance ≠ cfg.deviceInstance then none
  else
    match (getCommandable p.objectType p.objectInstance).bind fun o =>
        (s.outputs o).readPrioritySlot p.propertyIdentifier p.propertyArrayIndex with
    | some (slotIsSet, _) => some !slotIsSet
    | none =>
      if p.names objectTypeLift liftInstance propertyIdentifierPassengerAlarm then
        some s.liftPassengerAlarm
      else if p.names objectTypeLift liftInstance propertyIdentifierOutOfService then
        some s.liftOutOfService
      else if p.names objectTypeEscalator escalatorInstance propertyIdentifierPassengerAlarm then
        some s.escalatorPassengerAlarm
      else if p.names objectTypeEscalator escalatorInstance propertyIdentifierOutOfService then
        some s.escalatorOutOfService
      else if p.names objectTypeEscalator escalatorInstance propertyIdentifierPowerMode then
        some s.escalatorPowerMode
      else if p.propertyIdentifier = propertyIdentifierOutOfService
          ∧ p.objectType ∈ [objectTypeAnalogInput, objectTypeBinaryInput,
            objectTypeMultiStateInput, objectTypeAnalogOutput, objectTypeBinaryOutput,
            objectTypeMultiStateOutput, objectTypeNetworkPort, objectTypeSchedule] then
        some false
      else if p.names objectTypeCalendar calendarInstance propertyIdentifierPresentValue then
        some false
      else if p.names objectTypeFile fileInstance propertyIdentifierArchive then
        some s.ivory.archive
      else if p.names objectTypeFile fileInstance propertyIdentifierReadOnly then some false
      else none

/-- A date as the protocol has it. -/
structure BacnetDate where
  yearMinus1900 : ℕ
  month : ℕ
  day : ℕ
  weekday : ℕ
  deriving DecidableEq

/-- A time of day as the protocol has it. -/
structure BacnetTime where
  hour : ℕ
  minute : ℕ
  second : ℕ
  hundredthSecond : ℕ
  deriving DecidableEq

/-- `GetPropertyDate`, at a wall-clock time. -/
def getPropertyDate (cfg : Config) (now : ℤ) (s : State) (p : PropertyReference) :
    Option BacnetDate :=
  if p.deviceInstance = cfg.deviceInstance
      ∧ p.names objectTypeFile fileInstance propertyIdentifierModificationDate then
    some
      { yearMinus1900 := s.ivory.modificationDate.yearMinus1900
        month := s.ivory.modificationDate.month
        day := s.ivory.modificationDate.day
        weekday := s.ivory.modificationDate.weekday }
  else if p.deviceInstance ≠ cfg.deviceInstance
      ∨ ¬ p.names objectTypeDevice cfg.deviceInstance propertyIdentifierLocalDate then none
  else
    let deviceNow := readDeviceDateTime cfg.host now s.clockOffsetSeconds {}
    if ¬ deviceNow.valid then none
    else
      some
        { yearMinus1900 := deviceNow.yearMinus1900
          month := deviceNow.month
          day := deviceNow.day
          weekday := deviceNow.weekday }

/-- `GetPropertyTime`, at a wall-clock time. -/
def getPropertyTime (cfg : Config) (now : ℤ) (s : State) (p : PropertyReference) :
    Option BacnetTime :=
  if p.deviceInstance = cfg.deviceInstance
      ∧ p.names objectTypeFile fileInstance propertyIdentifierModificationDate then
    some
      { hour := s.ivory.modificationDate.hour
        minute := s.ivory.modificationDate.minute
        second := s.ivory.modificationDate.second
        hundredthSecond := s.ivory.modificationDate.hundredthSecond }
  else if p.deviceInstance ≠ cfg.deviceInstance
      ∨ ¬ p.names objectTypeDevice cfg.deviceInstance propertyIdentifierLocalTime then none
  else
    let deviceNow := readDeviceDateTime cfg.host now s.clockOffsetSeconds {}
    if ¬ deviceNow.valid then none
    else
      some
        { hour := deviceNow.hour
          minute := deviceNow.minute
          second := deviceNow.second
          hundredthSecond := 0 }

/-! ## The setters -/

/-- The state with one output's priority array replaced. -/
def State.setOutput (s : State) (o : Output) (c : Commandable) : State :=
  { s with outputs := Function.update s.outputs o c }

/-- `SetPropertyReal`. -/
def setPropertyReal (cfg : Config) (p : PropertyReference) (value : binary32.Value)
    (priority : ℕ) (s : State) : Reply × State :=
  if p.deviceInstance ≠ cfg.deviceInstance then (.decline, s)
  else if p.names objectTypeAnalogOutput analogOutputInstance propertyIdentifierPresentValue then
    (.accept, s.setOutput .analog
      ((s.outputs .analog).commandWrite priority (value.convert binary64)))
  else if p.objectType = objectTypeAnalogValue
      ∧ p.propertyIdentifier = propertyIdentifierPresentValue then
    match s.createdAnalogValues.write p.objectInstance value with
    | none => (.decline, s)
    | some t => (.accept, { s with createdAnalogValues := t })
  else (.decline, s)

/-- `SetPropertyEnumerated`. -/
def setPropertyEnumerated (cfg : Config) (p : PropertyReference) (value priority : ℕ) (s : State) :
    Reply × State :=
  if p.deviceInstance ≠ cfg.deviceInstance then (.decline, s)
  else if p.names objectTypeBinaryOutput binaryOutputInstance propertyIdentifierPresentValue then
    if value > 1 then (.declineWith errorCodeValueOutOfRange, s)
    else
      (.accept, s.setOutput .binary
        ((s.outputs .binary).commandWrite priority (castDouble value)))
  else (.decline, s)

/-- `SetIvoryFileSize`, at a wall-clock time. -/
def setIvoryFileSize (cfg : Config) (now : ℤ) (newSize : ℕ) (s : State) : Reply × State :=
  match setFileSize s.ivory.data newSize with
  | none => (.declineWith errorCodeValueOutOfRange, s)
  | some data =>
    (.accept, { s with
      ivory := { s.ivory with
        data := data
        modificationDate := readDeviceDateTime cfg.host now s.clockOffsetSeconds
          s.ivory.modificationDate } })

/-- `SetPropertyUnsignedInteger`. -/
def setPropertyUnsignedInteger (cfg : Config) (now : ℤ) (p : PropertyReference)
    (value priority : ℕ) (s : State) : Reply × State :=
  if p.deviceInstance ≠ cfg.deviceInstance then (.decline, s)
  else if p.names objectTypeMultiStateOutput multiStateOutputInstance
      propertyIdentifierPresentValue then
    if value < 1 ∨ value > multiStateOutputNumberOfStates then
      (.declineWith errorCodeValueOutOfRange, s)
    else
      (.accept, s.setOutput .multiState
        ((s.outputs .multiState).commandWrite priority (castDouble value)))
  else if p.names objectTypeFile fileInstance propertyIdentifierFileSize then
    setIvoryFileSize cfg now value s
  else (.decline, s)

/-- `SetPropertyBool`. -/
def setPropertyBool (cfg : Config) (p : PropertyReference) (value : Bool) (s : State) :
    Reply × State :=
  if p.deviceInstance ≠ cfg.deviceInstance
      ∨ ¬ p.names objectTypeFile fileInstance propertyIdentifierArchive then (.decline, s)
  else (.accept, { s with ivory := { s.ivory with archive := value } })

/-- `SetPropertyNull`. -/
def setPropertyNull (cfg : Config) (p : PropertyReference) (priority : ℕ) (s : State) :
    Reply × State :=
  if p.deviceInstance ≠ cfg.deviceInstance then (.decline, s)
  else
    match getCommandable p.objectType p.objectInstance with
    | none => (.decline, s)
    | some o =>
      if p.propertyIdentifier = propertyIdentifierPresentValue then
        (.accept, s.setOutput o ((s.outputs o).commandRelinquish priority))
      else (.decline, s)

end Controller
