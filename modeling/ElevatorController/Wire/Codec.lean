import ElevatorController.Machinery.BigEndian
import ElevatorController.Model.Protocol

/-!
# Wire/Codec — the frames of the wire tests

    bvlc(npdu(apdu))

The functions of `wiretest/codec.py` that build a frame around a ReadProperty or WriteProperty
request, a ReadProperty acknowledgement or a network layer message.  A function is `none` where the
Python raises: a number that does not fit the octets it is packed into.
-/

namespace Controller

open BigEndian

/-! ## Packing -/

/-- `struct.pack(">B", n)`, and `bytes([n])`. -/
def packB (n : ℕ) : Option (List UInt8) := if n < 2 ^ 8 then some (octetsOf 1 n) else none

/-- `struct.pack(">H", n)`. -/
def packH (n : ℕ) : Option (List UInt8) := if n < 2 ^ 16 then some (octetsOf 2 n) else none

/-- `struct.pack(">I", n)`. -/
def packI (n : ℕ) : Option (List UInt8) := if n < 2 ^ 32 then some (octetsOf 4 n) else none

/-- `object_id`. -/
def objectId (objectType objectInstance : ℕ) : Option (List UInt8) :=
  packI (objectType <<< 22 ||| objectInstance)

/-- `_unsigned_octets`: as few octets as the value fits in. -/
def unsignedOctets (value : ℕ) : Option (List UInt8) :=
  ([1, 2, 3, 4].find? fun length => value < 1 <<< (8 * length)).map fun length =>
    octetsOf length value

/-- `context_unsigned`. -/
def contextUnsigned (tag value : ℕ) : Option (List UInt8) := do
  let body ← unsignedOctets value
  let header ← packB (tag <<< 4 ||| 0x08 ||| body.length)
  some (header ++ body)

/-- `context_object_id`. -/
def contextObjectId (tag objectType objectInstance : ℕ) : Option (List UInt8) := do
  let header ← packB (tag <<< 4 ||| 0x08 ||| 4)
  let body ← objectId objectType objectInstance
  some (header ++ body)

/-- `opening`. -/
def opening (tag : ℕ) : Option (List UInt8) := packB (tag <<< 4 ||| 0x0E)

/-- `closing`. -/
def closing (tag : ℕ) : Option (List UInt8) := packB (tag <<< 4 ||| 0x0F)

/-- An argument whose default is `None`: encoded if it is given. -/
def ifGiven (encode : ℕ → Option (List UInt8)) : Option ℕ → Option (List UInt8)
  | none => some []
  | some value => encode value

/-! ## APDUs -/

def serviceReadProperty : ℕ := 12
def serviceWriteProperty : ℕ := 15

/-- `confirmed_request`. -/
def confirmedRequest (invokeId service : ℕ) (parameters : List UInt8) : Option (List UInt8) := do
  let invoke ← packB invokeId
  let choice ← packB service
  some (0x00 :: 0x05 :: invoke ++ choice ++ parameters)

/-- `read_property_request`. -/
def readPropertyRequest (invokeId objectType objectInstance propertyIdentifier : ℕ)
    (arrayIndex : Option ℕ) : Option (List UInt8) := do
  let object ← contextObjectId 0 objectType objectInstance
  let property ← contextUnsigned 1 propertyIdentifier
  let index ← ifGiven (contextUnsigned 2) arrayIndex
  confirmedRequest invokeId serviceReadProperty (object ++ property ++ index)

/-- `write_property_request`. -/
def writePropertyRequest (invokeId objectType objectInstance propertyIdentifier : ℕ)
    (valueOctets : List UInt8) (priority arrayIndex : Option ℕ) : Option (List UInt8) := do
  let object ← contextObjectId 0 objectType objectInstance
  let property ← contextUnsigned 1 propertyIdentifier
  let index ← ifGiven (contextUnsigned 2) arrayIndex
  let opened ← opening 3
  let closed ← closing 3
  let level ← ifGiven (contextUnsigned 4) priority
  confirmedRequest invokeId serviceWriteProperty
    (object ++ property ++ index ++ (opened ++ valueOctets ++ closed) ++ level)

/-- `read_property_ack`. -/
def readPropertyAck (invokeId objectType objectInstance propertyIdentifier : ℕ)
    (valueOctets : List UInt8) : Option (List UInt8) := do
  let invoke ← packB invokeId
  let choice ← packB serviceReadProperty
  let object ← contextObjectId 0 objectType objectInstance
  let property ← contextUnsigned 1 propertyIdentifier
  let opened ← opening 3
  let closed ← closing 3
  some (0x30 :: invoke ++ choice ++ (object ++ property ++ opened ++ valueOctets ++ closed))

/-! ## NPDU and BVLC -/

/-- The keyword arguments of `npdu`. -/
structure NpduArguments where
  networkMessage : Option ℕ := none
  dnet : Option ℕ := none
  dadr : List UInt8 := []
  snet : Option ℕ := none
  sadr : List UInt8 := []
  expectingReply : Bool := false
  hopCount : ℕ := 255

/-- The control octet. -/
def NpduArguments.control (a : NpduArguments) : UInt8 :=
  (if a.networkMessage.isSome then 0x80 else 0) ||| (if a.dnet.isSome then 0x20 else 0)
    ||| (if a.snet.isSome then 0x08 else 0) ||| (if a.expectingReply then 0x04 else 0)

/-- `struct.pack(">HB", net, len(adr)) + adr`. -/
def specifier (adr : List UInt8) (net : ℕ) : Option (List UInt8) := do
  let number ← packH net
  let length ← packB adr.length
  some (number ++ length ++ adr)

/-- `npdu`. -/
def npdu (payload : List UInt8) (a : NpduArguments) : Option (List UInt8) := do
  let dest ← ifGiven (specifier a.dadr) a.dnet
  let src ← ifGiven (specifier a.sadr) a.snet
  let hops ← ifGiven (fun _ => packB a.hopCount) a.dnet
  let message ← ifGiven packB a.networkMessage
  some (0x01 :: a.control :: dest ++ src ++ hops ++ message ++ payload)

/-- `bvll`. -/
def bvll (function : ℕ) (body : List UInt8) : Option (List UInt8) := do
  let number ← packB function
  let length ← packH (4 + body.length)
  some (0x81 :: number ++ length ++ body)

def bvlcOriginalUnicast : ℕ := 0x0A
def bvlcOriginalBroadcast : ℕ := 0x0B

/-- `bvlc`. -/
def bvlc (npduOctets : List UInt8) (broadcast : Bool) : Option (List UInt8) :=
  bvll (if broadcast then bvlcOriginalBroadcast else bvlcOriginalUnicast) npduOctets

end Controller
