import ElevatorController.Peer.Server

/-!
# Peer/Client — the client of a wire test

    request ──▸ sendto ──▸ wait_for ──no answer──▸ sendto ──▸ …        1 + retries times

`Client` of `wiretest/client.py`, on the `Endpoint` of `wiretest/endpoint.py`.  It numbers its
requests modulo 256, and takes the first frame that carries the number of the request as its
answer, whoever sent it.
-/

namespace Controller

open BigEndian Tokens

/-! ## What came back -/

/-- `error_class_and_code`. -/
def errorClassAndCode (apdu : List UInt8) : Except Raised (Option (ℕ × ℕ)) := do
  let values ← applicationValues (apdu.drop 3)
  match values with
  | first :: second :: _ => .ok (some (BigEndian.value first.2, BigEndian.value second.2))
  | _ => .ok none

/-- `Answer`: the frame, if one came. -/
structure Answer where
  frame : Option Frame
  deriving DecidableEq

namespace Answer

/-- `acked`. -/
def acked (a : Answer) : Bool := a.frame.any (·.pduType = some 2)

/-- `value_octets`. -/
def valueOctets (a : Answer) : Except Raised (Option (List UInt8)) :=
  match a.frame with
  | none => .ok none
  | some frame => if frame.pduType ≠ some 3 then .ok none else readPropertyValue frame.payload

/-- `error`. -/
def error (a : Answer) : Except Raised (Option (ℕ × ℕ)) :=
  match a.frame with
  | none => .ok none
  | some frame => if frame.pduType ≠ some 5 then .ok none else errorClassAndCode frame.payload

end Answer

/-! ## What is sent -/

/-- A `build_apdu` of `ConfirmedServices`: whatever the invoke id is, a confirmed request with it. -/
structure ConfirmedRequest where
  build : ℕ → Option (List UInt8)
  confirmed : ∀ invokeId apdu, build invokeId = some apdu →
    ∃ service parameters, confirmedRequest invokeId service parameters = some apdu

/-- `read_property`. -/
def ConfirmedRequest.readProperty (objectType objectInstance propertyIdentifier : ℕ)
    (arrayIndex : Option ℕ) : ConfirmedRequest where
  build invokeId :=
    readPropertyRequest invokeId objectType objectInstance propertyIdentifier arrayIndex
  confirmed invokeId apdu h := by
    simp only [readPropertyRequest, Option.bind_eq_bind, Option.bind_eq_some_iff] at h
    obtain ⟨object, -, property, -, index, -, h⟩ := h
    exact ⟨_, _, h⟩

/-- `write_property`. -/
def ConfirmedRequest.writeProperty (objectType objectInstance propertyIdentifier : ℕ)
    (valueOctets : List UInt8) (priority arrayIndex : Option ℕ) : ConfirmedRequest where
  build invokeId := writePropertyRequest invokeId objectType objectInstance propertyIdentifier
    valueOctets priority arrayIndex
  confirmed invokeId apdu h := by
    simp only [writePropertyRequest, Option.bind_eq_bind, Option.bind_eq_some_iff] at h
    obtain ⟨object, -, property, -, index, -, opened, -, closed, -, level, -, h⟩ := h
    exact ⟨_, _, h⟩

/-- `read_property_multiple`. -/
def ConfirmedRequest.readPropertyMultiple (specifications : List AccessSpecification) :
    ConfirmedRequest where
  build invokeId := readPropertyMultipleRequest invokeId specifications
  confirmed invokeId apdu h := by
    simp only [readPropertyMultipleRequest, Option.bind_eq_bind, Option.bind_eq_some_iff] at h
    obtain ⟨parameters, -, h⟩ := h
    exact ⟨_, _, h⟩

/-- What a client sends an APDU in: `bvlc(npdu(apdu, dnet, dadr, expecting_reply=True))`. -/
def requestDatagram (apdu : List UInt8) (dnet : Option ℕ) (dadr : List UInt8) :
    Option (List UInt8) := do
  let npduOctets ← npdu apdu { dnet, dadr, expectingReply := true }
  bvlc npduOctets false

/-! ## Waiting -/

/-- The predicate of `request`: the frame answers the request of this invoke id. -/
def Frame.answersTo (frame : Frame) (invokeId : ℕ) : Except Raised Bool :=
  if frame.networkMessage = none ∧ frame.pduType ∈ [some 3, some 2, some 5, some 6, some 7] then do
    let octet ← frame.invokeId
    .ok (octet.map UInt8.toNat = some invokeId)
  else .ok false

/-- The loop of `wait_for`: the first frame that is decoded and matches. -/
def firstAnswer (invokeId : ℕ) : List Frame → Except Raised (Option Frame)
  | [] => .ok none
  | frame :: frames =>
    if frame.ok then do
      if ← frame.answersTo invokeId then .ok (some frame) else firstAnswer invokeId frames
    else firstAnswer invokeId frames

/-- A request that has been sent: its octets, and how often it may be sent again. -/
structure Waiting where
  invokeId : ℕ
  octets : List UInt8
  resends : ℕ

/-- `Client`, and how far its `wait_for` has looked. -/
structure Client where
  invokeId : ℕ := 0
  retries : ℕ := 0
  frames : List Frame := []
  seen : ℕ := 0
  waiting : Option Waiting := none

/-- What a call of `request` has come to: it waits, returns, or raises. -/
inductive Progress where
  | waits
  | returns (answer : Answer)
  | raises (e : Raised)

/-- What a step of the client leaves, what it comes to, and what it sends. -/
structure ClientStep where
  client : Client
  progress : Progress := .waits
  sent : Option (List UInt8) := none

namespace Client

variable (c : Client)

/-- `_next_invoke_id`. -/
def nextInvokeId : ℕ := (c.invokeId + 1) % 256

/-- `wait_for` goes through the frames it has not seen. -/
def look (w : Waiting) (sent : Option (List UInt8)) : ClientStep :=
  match firstAnswer w.invokeId (c.frames.drop c.seen) with
  | .error e => ⟨{ c with waiting := none }, .raises e, sent⟩
  | .ok (some frame) => ⟨{ c with waiting := none }, .returns ⟨some frame⟩, sent⟩
  | .ok none => ⟨{ c with seen := c.frames.length, waiting := some w }, .waits, sent⟩

/-- An attempt: the octets are sent, and `wait_for` starts at the first frame. -/
def attempt (w : Waiting) : ClientStep := { c with seen := 0 }.look w (some w.octets)

/-- `request`, up to its first attempt. -/
def request (r : ConfirmedRequest) (dnet : Option ℕ) (dadr : List UInt8) : ClientStep :=
  let c := { c with invokeId := c.nextInvokeId, frames := [] }
  match (r.build c.invokeId).bind (requestDatagram · dnet dadr) with
  | none => ⟨c, .raises .valueError, none⟩
  | some octets => c.attempt ⟨c.invokeId, octets, c.retries⟩

/-- `_receive` has a datagram, and `wait_for` goes on. -/
def arrives (w : Waiting) (data : List UInt8) : ClientStep :=
  match Frame.decode data with
  | .error e => ⟨{ c with waiting := none }, .raises e, none⟩
  | .ok frame => { c with frames := c.frames ++ [frame] }.look w none

/-- The time of an attempt is over, with every frame looked at: `send_with_retries` makes the next,
or gives up. -/
def timeOut (w : Waiting) : ClientStep :=
  match w.resends with
  | 0 => ⟨{ c with waiting := none }, .returns ⟨none⟩, none⟩
  | resends + 1 => c.attempt { w with resends }

end Client

end Controller
