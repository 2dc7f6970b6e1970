import ElevatorController.Model.Device
import ElevatorController.Text.Octets

/-!
# Model/CharString — the character strings the device serves

Names and descriptions are C strings, here the octets before the NUL.  All but two are constants of
the source; the device's name may come from the command line, and the firmware revision is built at
start-up.
-/

namespace Controller

/-- `CHARACTER_STRING_ENCODING_UTF8`. -/
def characterStringEncodingUtf8 : ℕ := 0

/-- What a callback stores for a character string: the octets it copies, and their encoding. -/
structure CharacterString where
  octets : List UInt8
  encodingType : ℕ
  deriving DecidableEq

/-- `ReturnCharacterString`, for a buffer of `maxElementCount` octets. -/
def returnCharacterString (text : List UInt8) (maxElementCount : ℕ) : CharacterString :=
  let length := text.length % 2 ^ 32
  -- the stack holds one octet less than the buffer has; a buffer of none is not looked at
  let length :=
    if maxElementCount > 0 ∧ length ≥ maxElementCount then maxElementCount - 1 else length
  { octets := text.take length, encodingType := characterStringEncodingUtf8 }

/-- `MAX_DEVICE_NAME_LENGTH`. -/
def maxDeviceNameLength : ℕ := 255

/-- What `ParseDeviceNameArg` asks of a name: a length, and no control characters. -/
def isDeviceName (name : List UInt8) : Bool :=
  (decide (name.length > 0) && decide (name.length ≤ maxDeviceNameLength))
    && name.all fun octet => octet ≥ 0x20 && octet != 0x7F

/-- `ParseDeviceNameArg`, of the arguments after the program's name: the first valid name after a
`--deviceName`. -/
def parseDeviceNameArg (defaultDeviceName : List UInt8) : List (List UInt8) → List UInt8
  | arg :: next :: rest =>
    if arg = Text.ascii "--deviceName" ∧ isDeviceName next then next
    else parseDeviceNameArg defaultDeviceName (next :: rest)
  | _ => defaultDeviceName

/-- `DEVICE_NAME`. -/
def defaultDeviceName : String := "Chipkin Example B-AEC"

/-- `DEVICE_DESCRIPTION`. -/
def deviceDescription : String :=
  "Chipkin CAS BACnet Stack example - B-AEC (Advanced Elevator Controller) profile. " ++
  "Commands three outputs and the landing calls, creates and deletes Analog Values, " ++
  "keeps an Event Log, runs a Schedule, and backs up and restores its configuration."

def vendorName : String := "Chipkin Automation Systems"
def modelName : String := "CAS BACnet Stack Example - B-AEC"
def appVersion : String := "1.4.0"
def fileType : String := "application/octet-stream"

/-- `stateText` of the Multi-State Input, from state 1. -/
def stateText : List String := ["On", "Off", "Auto"]

/-- An object of the application with its Object_Name. -/
structure NamedObject where
  objectType : ℕ
  objectInstance : ℕ
  name : String

/-- The Object_Names `GetPropertyCharString` compares with, after the device's own. -/
def objectNames : List NamedObject :=
  [⟨objectTypeAnalogInput, analogInputInstance, "Bronze"⟩,
    ⟨objectTypeBinaryInput, binaryInputInstance, "Emerald"⟩,
    ⟨objectTypeMultiStateInput, multiStateInputInstance, "Hot Pink"⟩,
    ⟨objectTypeAnalogOutput, analogOutputInstance, "Chartreuse"⟩,
    ⟨objectTypeBinaryOutput, binaryOutputInstance, "Fuchsia"⟩,
    ⟨objectTypeMultiStateOutput, multiStateOutputInstance, "Indigo"⟩,
    ⟨objectTypeNetworkPort, networkPortInstance, "Vermilion"⟩,
    ⟨objectTypeElevatorGroup, elevatorGroupInstance, "Maroon"⟩,
    ⟨objectTypeLift, liftInstance, "Mauve"⟩,
    ⟨objectTypeEscalator, escalatorInstance, "Mint"⟩,
    ⟨objectTypePositiveIntegerValue, machineRoomIdInstance, "Turquoise"⟩,
    ⟨objectTypeNotificationClass, notificationClassInstance, "Crimson"⟩,
    ⟨objectTypeEventLog, eventLogInstance, "Beige"⟩,
    ⟨objectTypeSchedule, scheduleInstance, "Saffron"⟩,
    ⟨objectTypeCalendar, calendarInstance, "Cream"⟩,
    ⟨objectTypeFile, fileInstance, "Ivory"⟩]

/-- The two texts that are not constants: `g_deviceName` and `g_firmwareRevision`. -/
structure Identity where
  deviceName : List UInt8
  firmwareRevision : List UInt8

/-- `GetPropertyCharString`: the string, or a refusal with the error code it stored. -/
def getPropertyCharString (cfg : Config) (identity : Identity) (p : PropertyReference)
    (maxElementCount : ℕ) : Except (Option ℕ) CharacterString :=
  let serve := fun text : String => returnCharacterString (Text.ascii text) maxElementCount
  if p.deviceInstance ≠ cfg.deviceInstance then .error none
  else if p.names objectTypeFile fileInstance propertyIdentifierFileType then .ok (serve fileType)
  else if p.names objectTypeMultiStateInput multiStateInputInstance propertyIdentifierStateText
      ∧ p.propertyArrayIndex.isSome then
    -- one label an element; the array's size is read as an unsigned number
    match p.propertyArrayIndex.bind fun i => if i ≥ 1 then stateText[i - 1]? else none with
    | some text => .ok (serve text)
    | none => .error (some errorCodeInvalidArrayIndex)
  else if p.names objectTypeDevice cfg.deviceInstance propertyIdentifierObjectName then
    .ok (returnCharacterString identity.deviceName maxElementCount)
  else if p.propertyIdentifier = propertyIdentifierObjectName then
    match objectNames.find? fun o =>
      p.objectType = o.objectType ∧ p.objectInstance = o.objectInstance with
    | some o => .ok (serve o.name)
    | none => .error none
  else if p.names objectTypeDevice cfg.deviceInstance propertyIdentifierDescription then
    .ok (serve deviceDescription)
  else if p.names objectTypeDevice cfg.deviceInstance propertyIdentifierVendorName then
    .ok (serve vendorName)
  else if p.names objectTypeDevice cfg.deviceInstance propertyIdentifierModelName then
    .ok (serve modelName)
  else if p.names objectTypeDevice cfg.deviceInstance propertyIdentifierFirmwareRevision then
    .ok (returnCharacterString identity.firmwareRevision maxElementCount)
  else if p.names objectTypeDevice cfg.deviceInstance
      propertyIdentifierApplicationSoftwareVersion then .ok (serve appVersion)
  else .error none

end Controller
