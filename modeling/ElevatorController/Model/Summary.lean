import ElevatorController.Model.Frame
import ElevatorController.Model.Names
import ElevatorController.Text.Snprintf

/-!
# Model/Summary — the one-line summary of a logged frame

    DecodedFrame ──▸ body (128 octets of its own) ──▸ outSummary, and the route after it

A buffer is the octets that the function may write: of the caller's, the first `outSummaryLength`.
A function fails (`none`) where it reads outside the frame, writes outside a buffer, tells
`snprintf` of no room, or takes the `strlen` of a buffer without a NUL.
-/

namespace Controller

open Text

/-! ## The route -/

/-- The loop of `AppendHex`, at an octet of the address, with the octets left. -/
def appendHexFrom (frame : List UInt8) : ℕ → ℕ → ℕ → List UInt8 → Option (List UInt8)
  | _, 0, _, buf => some buf
  | data, length + 1, used, buf =>
    if sizeT (used + 2) < buf.length then do
      let octet ← frame[data]?
      let (buf, printed) ← snprintf buf used (room buf.length used) (printHex octet)
      appendHexFrom frame (data + 1) length (sizeT (used + printed)) buf
    else some buf

/-- `AppendHex`. -/
def appendHex (frame buf : List UInt8) (data length : ℕ) : Option (List UInt8) := do
  let used ← strlen buf
  appendHexFrom frame data length used buf

/-- `AppendRouteSuffix`. -/
def appendRouteSuffix (frame buf : List UInt8) (d : DecodedFrame) : Option (List UInt8) :=
  if ¬ d.hasDest then some buf
  else do
    let buf ← append buf (ascii " DNET=" ++ printUnsigned d.dnet)
    match d.dadr with
    | some dadr =>
      if d.dadrLength > 0 then do
        let buf ← append buf (ascii " DADR=")
        appendHex frame buf dadr d.dadrLength
      else some buf
    | none => some buf

/-! ## The texts -/

/-- A label, with the name of its number, or the number, if there is one. -/
def labelled (label kind : String) (present : Bool) (name : Option String) (number : UInt8) :
    List UInt8 :=
  if ¬ present then ascii label
  else
    match name with
    | some name => ascii label ++ ascii ": " ++ ascii name
    | none => ascii label ++ ascii ": " ++ ascii kind ++ ascii "=" ++ printUnsigned number.toNat

/-- The text of an APDU, by its type. -/
def pduText (d : DecodedFrame) : List UInt8 :=
  match d.pduType with
  | 0 => labelled "ConfirmedRequest" "service" d.hasServiceChoice
      (confirmedServiceName d.serviceChoice) d.serviceChoice
  | 1 => labelled "Unconfirmed" "service" d.hasServiceChoice
      (unconfirmedServiceName d.serviceChoice) d.serviceChoice
  | 2 => labelled "SimpleACK" "service" d.hasServiceChoice
      (confirmedServiceName d.serviceChoice) d.serviceChoice
  | 3 => labelled "ComplexACK" "service" d.hasServiceChoice
      (confirmedServiceName d.serviceChoice) d.serviceChoice
  | 4 => ascii "SegmentACK"
  | 5 => labelled "Error" "service" d.hasServiceChoice
      (confirmedServiceName d.serviceChoice) d.serviceChoice
  | 6 => labelled "Reject" "reason" d.hasReason (rejectReasonName d.reason) d.reason
  | 7 => labelled "Abort" "reason" d.hasReason (abortReasonName d.reason) d.reason
  | _ => ascii "?"

/-- The array index of a property, if there is one. -/
def indexText (d : DecodedFrame) : List UInt8 :=
  if d.hasArrayIndex then ascii "[" ++ printUnsigned d.arrayIndex ++ ascii "]" else []

/-- The object and the property: by name if both have one, else by number. -/
def propertyText (d : DecodedFrame) : List UInt8 :=
  match objectTypeName d.objectType, propertyName d.propertyId with
  | some typeName, some propName =>
    ascii " " ++ ascii typeName ++ ascii " " ++ printUnsigned d.objectInstance ++ ascii "."
      ++ ascii propName ++ indexText d
  | _, _ =>
    ascii " object-type=" ++ printUnsigned d.objectType ++ ascii " "
      ++ printUnsigned d.objectInstance ++ ascii ".property=" ++ printUnsigned d.propertyId
      ++ indexText d

/-! ## The summary -/

/-- The body: the APDU, and the object and the property that it names. -/
def summarizeBody (body : List UInt8) (d : DecodedFrame) : Option (List UInt8) := do
  let body ← store body 0 0
  let body ← print body (pduText d)
  if d.hasObjectProperty then append body (propertyText d) else some body

/-- `SummarizeBacnetFrame`: what is left in the caller's buffer, and in the body if the function
gets there.  `body` is what the memory holds before. -/
def summarizeBacnetFrame (frame outSummary body : List UInt8) :
    Option (List UInt8 × Option (List UInt8)) :=
  if outSummary.length = 0 then some (outSummary, none)
  else do
    let outSummary ← store outSummary 0 0
    let d ← decodeBacnetFrame frame
    if ¬ d.bacnetIp then do
      let outSummary ← print outSummary (ascii "?")
      some (outSummary, none)
    else if ¬ d.hasNpdu then do
      let outSummary ← print outSummary (ascii "BVLC function=0x" ++ printHex d.bvlcFunction)
      some (outSummary, none)
    else if d.isNetworkMessage then do
      let outSummary ← print outSummary (labelled "Network-Layer-Message" "type" true
        (networkMessageName d.networkMessageType) d.networkMessageType)
      let outSummary ← appendRouteSuffix frame outSummary d
      some (outSummary, none)
    else if ¬ d.hasApdu then do
      let outSummary ← print outSummary (ascii "?")
      some (outSummary, none)
    else do
      let body ← summarizeBody body d
      let length ← strlen body
      let outSummary ← print outSummary (body.take length)
      let outSummary ← appendRouteSuffix frame outSummary d
      some (outSummary, some body)

end Controller
