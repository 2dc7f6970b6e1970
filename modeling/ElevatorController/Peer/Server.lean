import ElevatorController.Wire.Datagrams
import ElevatorController.Wire.PropertyMultiple

/-!
# Peer/Server — the simulated device on the far side of a wire test

    datagram ──▸ Frame ──▸ _answer ──▸ _reply ──▸ datagram

`SimulatedServer` of `wiretest/peer.py`: objects with properties that are read, written and
commanded, and a test that may change how it answers at any time.  Its thread answers one datagram
after another, until one of them makes it raise; what a method had changed by then stays.
-/

namespace Controller

open BigEndian Tokens

/-! ## More APDUs -/

def propertyObjectIdentifier : ℕ := 75
def propertyObjectName : ℕ := 77
def propertyPresentValue : ℕ := 85
def serviceWhoIs : ℕ := 8
def serviceIAm : ℕ := 0
def errorClassObject : ℕ := 1
def errorCodeUnknownObject : ℕ := 31
def errorCodeWriteAccessDenied : ℕ := 40
def rejectReasonUnrecognizedService : ℕ := 9
def abortReasonSegmentationNotSupported : ℕ := 4

/-- `error_pdu`. -/
def errorPdu (invokeId service errorClass errorCode : ℕ) : Option (List UInt8) := do
  let invoke ← packB invokeId
  let choice ← packB service
  let numbers ← errorNumbers errorClass errorCode
  some (0x50 :: invoke ++ choice ++ numbers)

/-- `simple_ack`. -/
def simpleAck (invokeId service : ℕ) : Option (List UInt8) := do
  let invoke ← packB invokeId
  let choice ← packB service
  some (0x20 :: invoke ++ choice)

/-- `reject_pdu`. -/
def rejectPdu (invokeId reason : ℕ) : Option (List UInt8) := do
  let invoke ← packB invokeId
  let octet ← packB reason
  some (0x60 :: invoke ++ octet)

/-- `abort_pdu`, sent by a server. -/
def abortPdu (invokeId reason : ℕ) : Option (List UInt8) := do
  let invoke ← packB invokeId
  let octet ← packB reason
  some (0x71 :: invoke ++ octet)

/-- `i_am`, with its default maximum APDU length and segmentation. -/
def iAm (deviceInstance vendorIdentifier : ℕ) : Option (List UInt8) := do
  let object ← applicationObjectId objectTypeDevice deviceInstance
  let maxApdu ← applicationUnsigned 1476
  let segmentation ← applicationEnumerated 3
  let vendor ← applicationUnsigned vendorIdentifier
  some (0x10 :: UInt8.ofNat serviceIAm :: object ++ maxApdu ++ segmentation ++ vendor)

/-! ## The device -/

/-- How the peer answers. -/
inductive Mode where
  | online
  | offline
  | refusing
  deriving DecidableEq

/-- How it fails the requests about an object. -/
inductive Failure where
  | reject
  | abort
  | silent
  | malformed
  deriving DecidableEq

/-- What is kept of a property: octets, or a callable that reads them off the test's attributes. -/
inductive Served (ω : Type) where
  | octets (value : List UInt8)
  | callable (call : ω → Option (List UInt8))

/-- `served() if callable(served) else served`. -/
def Served.value {ω : Type} (attributes : ω) : Served ω → Option (List UInt8)
  | .octets value => some value
  | .callable call => call attributes

/-- An object: its type and instance. -/
abbrev ObjectKey := ℕ × ℕ

/-- What is kept of a read: the service, and the properties read of each object. -/
abbrev ReadRecord := ℕ × List (ObjectKey × List ℕ)

/-- `SimulatedServer`, and the attributes of the test that its callables read. -/
structure Server (ω : Type) where
  deviceInstance : ℕ
  objectName : List UInt8
  vendorIdentifier : ℕ := 389
  objects : List (ObjectKey × List (ℕ × Served ω))
  writable : Option (List (ObjectKey × ℕ)) := none
  commandable : Option (List ObjectKey) := none
  arrayElements : Bool := false
  mode : Mode := .online
  relinquishDefaults : List (ObjectKey × Served ω) := []
  priorityArrays : List (ObjectKey × List (Option (List UInt8))) := []
  failures : List (ObjectKey × Failure) := []
  wholeArraysRefused : List (ObjectKey × ℕ) := []
  readRequests : List ReadRecord := []
  writeRequests : List WriteRequest := []
  arrayReads : List (ObjectKey × ℕ × ℕ) := []
  requestsWhileOffline : ℕ := 0
  silentRequests : ℕ := 0
  attributes : ω
  /-- `check_write`, which a test may override. -/
  checkWrite : WriteRequest → Option (ℕ × ℕ) := fun _ => none

namespace Server

variable {ω : Type}

/-- `value`. -/
def value (s : Server ω) (object : ObjectKey) (propertyIdentifier : ℕ) : Option (List UInt8) :=
  ((Dictionary.get object s.objects).bind (Dictionary.get propertyIdentifier)).bind
    (·.value s.attributes)

/-- What a commandable object starts with: its Relinquish_Default and an empty priority array, if it
has a Present_Value. -/
def commandFrom (objects : List (ObjectKey × List (ℕ × Served ω))) (key : ObjectKey) :
    Option ((ObjectKey × Served ω) × (ObjectKey × List (Option (List UInt8)))) := do
  let properties ← Dictionary.get key objects
  let default ← Dictionary.get propertyPresentValue properties
  some ((key, default), (key, List.replicate 16 none))

/-- `__init__`, of a server whose other fields are given; `none` where it raises a `KeyError`.
`commandable` is a set. -/
def init (s : Server ω) : Option (Server ω) := do
  let commanded ← (s.commandable.getD []).mapM (commandFrom s.objects)
  some { s with
    mode := .online
    relinquishDefaults := commanded.map Prod.fst
    priorityArrays := commanded.map Prod.snd
    failures := []
    wholeArraysRefused := []
    readRequests := []
    writeRequests := []
    arrayReads := []
    requestsWhileOffline := 0
    silentRequests := 0 }

end Server

/-! ## Answering -/

/-- What a method has changed, and what it returns or raises. -/
abbrev Outcome (ω α : Type) := Server ω × Except Raised α

/-- An encoder that may raise. -/
def encoded {α : Type} : Option α → Except Raised (Option α)
  | some a => .ok (some a)
  | none => .error .valueError

/-- `confirmed and frame.service == service`. -/
def Frame.confirms (frame : Frame) (service : ℕ) : Bool :=
  frame.pduType = some 0 ∧ frame.service = .ok (some (UInt8.ofNat service))

/-- The invoke id an answer is made with; a `None` raises there. -/
def Frame.answeredId (frame : Frame) : Except Raised ℕ := do
  match ← frame.invokeId with
  | some octet => .ok octet.toNat
  | none => .error .valueError

/-- An answer that carries the invoke id. -/
def Frame.answerWith (frame : Frame) (encode : ℕ → Option (List UInt8)) :
    Except Raised (Option (List UInt8)) := do
  let invokeId ← frame.answeredId
  encoded (encode invokeId)

namespace Server

variable {ω : Type} (s : Server ω) (frame : Frame)

/-- `SimulatedDevice._read_property`. -/
def readDeviceProperty : Except Raised (Option (List UInt8)) := do
  match ← parseReadPropertyRequest frame.payload false with
  | none => .ok none
  | some request =>
    if request.objectType ≠ objectTypeDevice
        ∨ (request.objectInstance ≠ s.deviceInstance ∧ request.objectInstance ≠ maxInstance) then
      frame.answerWith fun invokeId =>
        errorPdu invokeId serviceReadProperty errorClassObject errorCodeUnknownObject
    else if request.propertyIdentifier = propertyObjectName then
      frame.answerWith fun invokeId => do
        let value ← applicationCharacterString s.objectName
        readPropertyAck invokeId objectTypeDevice s.deviceInstance request.propertyIdentifier value
    else if request.propertyIdentifier = propertyObjectIdentifier then
      frame.answerWith fun invokeId => do
        let value ← applicationObjectId objectTypeDevice s.deviceInstance
        readPropertyAck invokeId objectTypeDevice s.deviceInstance request.propertyIdentifier value
    else
      frame.answerWith fun invokeId =>
        errorPdu invokeId serviceReadProperty errorClassProperty errorCodeUnknownProperty

/-- `_who_is`. -/
def whoIs : Except Raised (Option (List UInt8)) := do
  let octets := frame.payload.drop 2
  let limits ← loop octets.length (take (readTag octets) fun limits tag =>
    .ok (if tag.kind = .value then limits ++ [BigEndian.value tag.body] else limits)) [] 0
  match limits with
  | [low, high] =>
    if low ≤ s.deviceInstance ∧ s.deviceInstance ≤ high then
      encoded (iAm s.deviceInstance s.vendorIdentifier)
    else .ok none
  | _ => encoded (iAm s.deviceInstance s.vendorIdentifier)

/-- `SimulatedDevice._answer`. -/
def deviceAnswer : Except Raised (Option (List UInt8)) :=
  if frame.confirms serviceReadProperty then s.readDeviceProperty frame
  else if frame.pduType = some 1 ∧ frame.service = .ok (some (UInt8.ofNat serviceWhoIs)) then
    s.whoIs frame
  else .ok none

/-- `_requested_object`. -/
def requestedObject : Except Raised (Option ObjectKey) :=
  if frame.confirms serviceReadProperty then do
    let parsed ← parseReadPropertyRequest frame.payload false
    .ok (parsed.map fun request => (request.objectType, request.objectInstance))
  else if frame.confirms serviceWriteProperty then do
    let parsed ← parseWritePropertyRequest frame.payload
    .ok (parsed.map fun request => (request.objectType, request.objectInstance))
  else .ok none

/-- The failure that is asked for, if there is any for the object. -/
def failure : Except Raised (Option Failure) :=
  if frame.pduType = some 0 ∧ s.mode = .online ∧ s.failures ≠ [] then do
    let object ← requestedObject frame
    .ok (object.bind (Dictionary.get · s.failures))
  else .ok none

/-- `read_requests.append(…)`. -/
def recordRead (record : ReadRecord) : Server ω :=
  { s with readRequests := s.readRequests ++ [record] }

/-- The acknowledgement of a read with an array index. -/
def indexedAck (request : ReadRequest) (arrayIndex : ℕ) (valueOctets : List UInt8) (invokeId : ℕ) :
    Option (List UInt8) := do
  let invoke ← packB invokeId
  let choice ← packB serviceReadProperty
  let object ← contextObjectId 0 request.objectType request.objectInstance
  let property ← contextUnsigned 1 request.propertyIdentifier
  let index ← contextUnsigned 2 arrayIndex
  let opened ← opening 3
  let closed ← closing 3
  some (0x30 :: invoke ++ choice ++ (object ++ property ++ index ++ opened ++ valueOctets ++ closed))

/-- The answer to a read with an array index: the length, an element, or an error. -/
def elementAnswer (request : ReadRequest) (arrayIndex : ℕ) (served : List UInt8) :
    Except Raised (Option (List UInt8)) := do
  let elements ← applicationElements served
  if arrayIndex = 0 then
    frame.answerWith fun invokeId => do
      let value ← applicationUnsigned elements.length
      indexedAck request arrayIndex value invokeId
  else
    match elements[arrayIndex - 1]? with
    | some element => frame.answerWith (indexedAck request arrayIndex element)
    | none => frame.answerWith fun invokeId =>
        errorPdu invokeId serviceReadProperty errorClassProperty errorCodeInvalidArrayIndex

/-- `_read_special`: `.ok none` where there is nothing special. -/
def readSpecial (request : ReadRequest) (failure : Option Failure) :
    Outcome ω (Option (List UInt8)) :=
  let object := (request.objectType, request.objectInstance)
  let record : ReadRecord := (serviceReadProperty, [(object, [request.propertyIdentifier])])
  if failure = some .malformed then
    (s, frame.answerWith fun invokeId =>
      readPropertyAck invokeId request.objectType request.objectInstance request.propertyIdentifier
        applicationNull)
  else
    match request.arrayIndex with
    | none =>
      if (object, request.propertyIdentifier) ∈ s.wholeArraysRefused then
        (s.recordRead record, frame.answerWith fun invokeId =>
          abortPdu invokeId abortReasonSegmentationNotSupported)
      else (s, .ok none)
    | some arrayIndex =>
      if ¬ s.arrayElements then (s, .ok none)
      else
        match s.value object request.propertyIdentifier with
        | none => (s, .ok none)
        | some served =>
          ({ s.recordRead record with
              arrayReads := s.arrayReads ++ [(object, request.propertyIdentifier, arrayIndex)] },
            elementAnswer frame request arrayIndex served)

/-- The answer to a ReadProperty of a listed object. -/
def readListed (request : ReadRequest) (failure : Option Failure) :
    Outcome ω (Option (List UInt8)) :=
  let object := (request.objectType, request.objectInstance)
  match s.readSpecial frame request failure with
  | (s, .ok none) =>
    let s := s.recordRead (serviceReadProperty, [(object, [request.propertyIdentifier])])
    match s.value object request.propertyIdentifier with
    | none => (s, frame.answerWith fun invokeId =>
        errorPdu invokeId serviceReadProperty errorClassProperty errorCodeUnknownProperty)
    | some served => (s, frame.answerWith fun invokeId =>
        readPropertyAck invokeId request.objectType request.objectInstance
          request.propertyIdentifier served)
  | special => special

/-- The answer to a ReadProperty. -/
def read (failure : Option Failure) : Outcome ω (Option (List UInt8)) :=
  match parseReadPropertyRequest frame.payload true with
  | .error e => (s, .error e)
  | .ok none => (s, s.deviceAnswer frame)
  | .ok (some request) =>
    if (Dictionary.get (request.objectType, request.objectInstance) s.objects).isSome then
      s.readListed frame request failure
    else (s, s.deviceAnswer frame)

/-- What is answered of the objects of a ReadPropertyMultiple. -/
def results (members : List (ObjectKey × List ℕ)) :
    List (ObjectKey × List (ℕ × Option (List UInt8))) :=
  members.map fun member => (member.1, member.2.map fun property =>
    (property, s.value member.1 property))

/-- `_read_multiple`. -/
def readMultiple : Outcome ω (Option (List UInt8)) :=
  match readAccessSpecifications (frame.payload.drop 4) with
  | .error e => (s, .error e)
  | .ok members =>
    let s := s.recordRead (serviceReadPropertyMultiple, members)
    (s, frame.answerWith fun invokeId => readPropertyMultipleAck invokeId (s.results members))

/-- `property_identifier in objects.get(key, {})`. -/
def listed (object : ObjectKey) (propertyIdentifier : ℕ) : Bool :=
  ((Dictionary.get object s.objects).bind (Dictionary.get propertyIdentifier)).isSome

/-- The property is commanded. -/
def commanded (object : ObjectKey) (propertyIdentifier : ℕ) : Bool :=
  s.commandable.any (object ∈ ·) ∧ propertyIdentifier = propertyPresentValue

/-- `objects[key][property_identifier] = served`. -/
def store (object : ObjectKey) (propertyIdentifier : ℕ) (served : Served ω) : Server ω :=
  { s with
    objects := Dictionary.modify object (Dictionary.set propertyIdentifier served) s.objects }

/-- The Present_Value of a commandable object: the first command there is, else the default. -/
def winning (object : ObjectKey) (slots : List (Option (List UInt8))) : Option (Served ω) :=
  match slots.reduceOption with
  | first :: _ => some (.octets first)
  | [] => Dictionary.get object s.relinquishDefaults

/-- `(request["priority"] or self.PRIORITY_DEFAULT) - 1`: the last slot for a priority of 0 too. -/
def slotOf (priority : Option ℕ) : ℕ :=
  (if priority.getD 0 = 0 then 16 else priority.getD 0) - 1

/-- `priority_arrays[key][slot] = value`. -/
def fill (object : ObjectKey) (slots : List (Option (List UInt8))) : Server ω :=
  { s with priorityArrays := Dictionary.modify object (fun _ => slots) s.priorityArrays }

/-- A command to a commandable object, whose Present_Value has been stored.  A slot that is not
there raises. -/
def command (object : ObjectKey) (priority : Option ℕ) (value : Option (List UInt8)) :
    Outcome ω Unit :=
  match Dictionary.get object s.priorityArrays with
  | none => (s, .error .indexError)
  | some slots =>
    if slotOf priority < slots.length then
      let slots := slots.set (slotOf priority) value
      match s.winning object slots with
      | some served => ((s.fill object slots).store object propertyPresentValue served, .ok ())
      | none => (s.fill object slots, .error .indexError)
    else (s, .error .indexError)

/-- The class and code a write is refused with, if it is. -/
def refusal (request : WriteRequest) : Option (ℕ × ℕ) :=
  let object := (request.objectType, request.objectInstance)
  let allowed : Bool := match s.writable with
    | none => s.listed object request.propertyIdentifier
    | some writable => (object, request.propertyIdentifier) ∈ writable
  if s.mode = .refusing ∨ ¬ allowed then some (errorClassProperty, errorCodeWriteAccessDenied)
  else s.checkWrite request

/-- A write that is not refused is stored, and commands the object if it is commandable. -/
def accept (request : WriteRequest) (isNull : Bool) : Outcome ω Unit :=
  let object := (request.objectType, request.objectInstance)
  let s' := s.store object request.propertyIdentifier (.octets request.valueOctets)
  if s.commanded object request.propertyIdentifier then
    s'.command object request.priority (if isNull then none else some request.valueOctets)
  else (s', .ok ())

/-- `_write`. -/
def write (request : WriteRequest) : Outcome ω (Option (List UInt8)) :=
  let object := (request.objectType, request.objectInstance)
  let acknowledge := frame.answerWith fun invokeId => simpleAck invokeId serviceWriteProperty
  match applicationTag request.valueOctets with
  | .error e => (s, .error e)
  | .ok tag =>
    let isNull : Bool := tag = some 0
    if s.commandable.isSome ∧ isNull ∧ ¬ s.commanded object request.propertyIdentifier
        ∧ s.mode = .online ∧ s.listed object request.propertyIdentifier then
      -- a NULL to a property that is not commandable changes nothing
      (s, acknowledge)
    else if (Dictionary.get object s.objects).isNone then
      (s, frame.answerWith fun invokeId =>
        errorPdu invokeId serviceWriteProperty errorClassObject errorCodeUnknownObject)
    else
      match s.refusal request with
      | some (errorClass, errorCode) =>
        (s, frame.answerWith fun invokeId =>
          errorPdu invokeId serviceWriteProperty errorClass errorCode)
      | none =>
        match s.accept request isNull with
        | (s, .error e) => (s, .error e)
        | (s, .ok ()) => (s, acknowledge)

/-- `_answer`, once no failure has been asked for; `request` is the WriteProperty that has been
kept. -/
def answerRequest (failure : Option Failure) (request : Option WriteRequest) :
    Outcome ω (Option (List UInt8)) :=
  if s.mode = .offline then
    if frame.confirms serviceReadProperty ∨ frame.confirms serviceReadPropertyMultiple
        ∨ frame.confirms serviceWriteProperty then
      ({ s with requestsWhileOffline := s.requestsWhileOffline + 1 }, .ok none)
    else (s, .ok none)
  else if frame.confirms serviceWriteProperty then
    match request with
    | none => (s, .ok none)
    | some request => s.write frame request
  else if frame.confirms serviceReadPropertyMultiple then s.readMultiple frame
  else if frame.confirms serviceReadProperty then s.read frame failure
  else (s, s.deviceAnswer frame)

/-- `write_requests.append(request)`, if there is one. -/
def keepWrite (request : Option WriteRequest) : Server ω :=
  { s with writeRequests := s.writeRequests ++ request.toList }

/-- `_answer`, past the failures: a WriteProperty is kept, answered or not. -/
def keepAndAnswer (failure : Option Failure) : Outcome ω (Option (List UInt8)) :=
  if frame.confirms serviceWriteProperty then
    match parseWritePropertyRequest frame.payload with
    | .error e => (s, .error e)
    | .ok request => (s.keepWrite request).answerRequest frame failure request
  else s.answerRequest frame failure none

/-- `_answer`. -/
def answer : Outcome ω (Option (List UInt8)) :=
  match s.failure frame with
  | .error e => (s, .error e)
  | .ok (some .reject) =>
    (s, frame.answerWith fun invokeId => rejectPdu invokeId rejectReasonUnrecognizedService)
  | .ok (some .abort) =>
    (s, frame.answerWith fun invokeId => abortPdu invokeId abortReasonSegmentationNotSupported)
  | .ok (some .silent) => ({ s with silentRequests := s.silentRequests + 1 }, .ok none)
  | .ok failure => s.keepAndAnswer frame failure

end Server

/-! ## Serving -/

/-- `_reply`: the datagram, through the router the request came by. -/
def reply (request : Frame) (apdu : List UInt8) : Option (List UInt8) := do
  let npduOctets ← npdu apdu { dnet := request.snet, dadr := request.sadr }
  bvlc npduOctets false

/-- The peer: its server, the frames it has received, and whether its thread still runs. -/
structure Peer (ω : Type) where
  server : Server ω
  received : List Frame := []
  running : Bool := true

namespace Peer

variable {ω : Type}

/-- What the thread does with a frame it has kept. -/
def handle (p : Peer ω) (frame : Frame) : Peer ω × Option (List UInt8) :=
  if frame.ok ∧ frame.networkMessage = none then
    match p.server.answer frame with
    | (server, .error _) => ({ p with server, running := false }, none)
    | (server, .ok none) => ({ p with server }, none)
    | (server, .ok (some apdu)) =>
      match reply frame apdu with
      | some datagram => ({ p with server }, some datagram)
      | none => ({ p with server, running := false }, none)
  else (p, none)

/-- A pass of `_serve`: a datagram comes, and at most one goes back to where it came from. -/
def serve (p : Peer ω) (data : List UInt8) : Peer ω × Option (List UInt8) :=
  if p.running then
    match Frame.decode data with
    | .error _ => ({ p with running := false }, none)
    | .ok frame => { p with received := p.received ++ [frame] }.handle frame
  else (p, none)

end Peer

/-- What happens to a peer: a datagram, or a change its test makes. -/
inductive PeerEvent (ω : Type) where
  | datagram (data : List UInt8)
  | setMode (mode : Mode)
  | setFailures (failures : List (ObjectKey × Failure))
  | setWholeArraysRefused (wholeArraysRefused : List (ObjectKey × ℕ))
  | setAttributes (attributes : ω)

namespace Peer

variable {ω : Type}

/-- The peer after an event, and the datagram it sends back. -/
def step (p : Peer ω) : PeerEvent ω → Peer ω × Option (List UInt8)
  | .datagram data => p.serve data
  | .setMode mode => ({ p with server := { p.server with mode } }, none)
  | .setFailures failures => ({ p with server := { p.server with failures } }, none)
  | .setWholeArraysRefused wholeArraysRefused =>
    ({ p with server := { p.server with wholeArraysRefused } }, none)
  | .setAttributes attributes => ({ p with server := { p.server with attributes } }, none)

/-- The peer after some events. -/
def run (p : Peer ω) (events : List (PeerEvent ω)) : Peer ω :=
  events.foldl (fun p event => (p.step event).1) p

end Peer

end Controller
