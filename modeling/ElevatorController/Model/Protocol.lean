import ElevatorController.Numbers.BinaryFormat

/-!
# Model/Protocol — the numbers of the protocol, and what passes between application and stack

The application answers callbacks with a return value and perhaps an error code (`Reply`), and calls
the stack itself in four ways (`StackCall`).  Object types, properties and error codes are the
numbers the protocol gives them.
-/

namespace Controller

/-! ## Object types and instances -/

def objectTypeAnalogInput : ℕ := 0
def objectTypeAnalogOutput : ℕ := 1
def objectTypeAnalogValue : ℕ := 2
def objectTypeBinaryInput : ℕ := 3
def objectTypeBinaryOutput : ℕ := 4
def objectTypeCalendar : ℕ := 6
def objectTypeDevice : ℕ := 8
def objectTypeFile : ℕ := 10
def objectTypeMultiStateInput : ℕ := 13
def objectTypeMultiStateOutput : ℕ := 14
def objectTypeNotificationClass : ℕ := 15
def objectTypeSchedule : ℕ := 17
def objectTypeEventLog : ℕ := 25
def objectTypePositiveIntegerValue : ℕ := 48
def objectTypeNetworkPort : ℕ := 56
def objectTypeElevatorGroup : ℕ := 57
def objectTypeEscalator : ℕ := 58
def objectTypeLift : ℕ := 59

def analogInputInstance : ℕ := 1
def binaryInputInstance : ℕ := 1
def multiStateInputInstance : ℕ := 1
def analogOutputInstance : ℕ := 1
def binaryOutputInstance : ℕ := 1
def multiStateOutputInstance : ℕ := 1
def networkPortInstance : ℕ := 1
def elevatorGroupInstance : ℕ := 1
def liftInstance : ℕ := 1
def escalatorInstance : ℕ := 1
def machineRoomIdInstance : ℕ := 1
def notificationClassInstance : ℕ := 1
def eventLogInstance : ℕ := 1
def scheduleInstance : ℕ := 1
def calendarInstance : ℕ := 1
def fileInstance : ℕ := 1

/-! ## Properties -/

def propertyIdentifierApplicationSoftwareVersion : ℕ := 12
def propertyIdentifierArchive : ℕ := 13
def propertyIdentifierCovIncrement : ℕ := 22
def propertyIdentifierDescription : ℕ := 28
def propertyIdentifierFileSize : ℕ := 42
def propertyIdentifierFileType : ℕ := 43
def propertyIdentifierFirmwareRevision : ℕ := 44
def propertyIdentifierLocalDate : ℕ := 56
def propertyIdentifierLocalTime : ℕ := 57
def propertyIdentifierModelName : ℕ := 70
def propertyIdentifierModificationDate : ℕ := 71
def propertyIdentifierNumberOfStates : ℕ := 74
def propertyIdentifierObjectName : ℕ := 77
def propertyIdentifierOutOfService : ℕ := 81
def propertyIdentifierPolarity : ℕ := 84
def propertyIdentifierPresentValue : ℕ := 85
def propertyIdentifierPriorityArray : ℕ := 87
def propertyIdentifierReadOnly : ℕ := 99
def propertyIdentifierRelinquishDefault : ℕ := 104
def propertyIdentifierStateText : ℕ := 110
def propertyIdentifierUnits : ℕ := 117
def propertyIdentifierVendorIdentifier : ℕ := 120
def propertyIdentifierVendorName : ℕ := 121
def propertyIdentifierApduLength : ℕ := 399
def propertyIdentifierBacnetIpMode : ℕ := 408
def propertyIdentifierBacnetIpUdpPort : ℕ := 412
def propertyIdentifierAssignedLandingCalls : ℕ := 447
def propertyIdentifierCarDoorStatus : ℕ := 450
def propertyIdentifierCarMovingDirection : ℕ := 457
def propertyIdentifierCarPosition : ℕ := 458
def propertyIdentifierEscalatorMode : ℕ := 462
def propertyIdentifierGroupMode : ℕ := 467
def propertyIdentifierLandingCalls : ℕ := 470
def propertyIdentifierLandingCallControl : ℕ := 471
def propertyIdentifierLandingDoorStatus : ℕ := 472
def propertyIdentifierOperationDirection : ℕ := 477
def propertyIdentifierPassengerAlarm : ℕ := 478
def propertyIdentifierPowerMode : ℕ := 479
def propertyIdentifierRegisteredCarCall : ℕ := 480
def propertyIdentifierReferencePort : ℕ := 483

/-! ## Values of enumerated properties -/

def liftCarDirectionNone : ℕ := 1
def liftCarDirectionStopped : ℕ := 2
def liftCarDirectionUp : ℕ := 3
def liftCarDirectionDown : ℕ := 4

/-- The command choice of a landing call that names a direction. -/
def landingCallCommandDirection : ℕ := 1

/-- The command choice of a landing call that names a destination. -/
def landingCallCommandDestination : ℕ := 2

def doorStatusClosed : ℕ := 0
def doorStatusOpened : ℕ := 1

def liftGroupModeNormal : ℕ := 1
def escalatorOperationDirectionUpRatedSpeed : ℕ := 2
def escalatorModeUp : ℕ := 2
def polarityNormal : ℕ := 0
def engineeringUnitsDegreesCelsius : ℕ := 62
def bacnetIpModeNormal : ℕ := 0
def networkPortReferencePortNone : ℕ := 4194303

def reinitializeStateColdstart : ℕ := 0
def reinitializeStateWarmstart : ℕ := 1
def reinitializeStateStartBackup : ℕ := 2
def reinitializeStateAbortRestore : ℕ := 6

/-! ## Error codes -/

def errorCodePasswordFailure : ℕ := 26
def errorCodeValueOutOfRange : ℕ := 37
def errorCodeInvalidArrayIndex : ℕ := 42
def errorCodeOptionalFunctionalityNotSupported : ℕ := 45

/-! ## Between application and stack -/

/-- What a callback answers: its return value, and the error code it stored, if it stored one. -/
structure Reply where
  accepted : Bool
  errorCode : Option ℕ
  deriving DecidableEq

/-- `return true`. -/
def Reply.accept : Reply := ⟨true, none⟩

/-- `return false`, the error code untouched. -/
def Reply.decline : Reply := ⟨false, none⟩

/-- `*errorCode = code; return false`. -/
def Reply.declineWith (code : ℕ) : Reply := ⟨false, some code⟩

@[simp] theorem Reply.accepted_accept : Reply.accept.accepted = true := rfl
@[simp] theorem Reply.accepted_decline : Reply.decline.accepted = false := rfl
@[simp] theorem Reply.accepted_declineWith (code : ℕ) :
    (Reply.declineWith code).accepted = false := rfl

/-- What a callback that serves a list one element a call answers: the element, if it returned one,
and `*more`. -/
structure Page (α : Type) where
  element : Option α
  more : Bool
  deriving DecidableEq

/-- `*more = false; return false`. -/
def Page.refuse {α : Type} : Page α := ⟨none, false⟩

/-- A call of the application into the stack, for its own device. -/
inductive StackCall where
  /-- `BACnetStack_UpdateValue`: the value of a property changed. -/
  | updateValue (objectType objectInstance propertyIdentifier : ℕ)
  /-- `BACnetStack_AddObject`, and whether it succeeded. -/
  | addObject (objectType objectInstance : ℕ) (succeeded : Bool)
  /-- `BACnetStack_RemoveObject`. -/
  | removeObject (objectType objectInstance : ℕ)
  /-- `CASExampleHelper::SendIAm`. -/
  | sendIAm
  deriving DecidableEq

end Controller
