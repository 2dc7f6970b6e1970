import ElevatorController.Machinery.Buffer
import ElevatorController.Model.Clock

/-!
# Model/Ivory — File 1

Ivory is an array of 4096 octets with a length, stamped with the device clock whenever it changes.
The functions here are the callbacks' work on the octets alone.
-/

namespace Controller

def fileMaxSize : ℕ := 4096

structure Ivory where
  data : Buffer UInt8 fileMaxSize
  archive : Bool
  modificationDate : SyncedDateTime

/-- What a WriteFile came to. -/
inductive WriteResult where
  /-- The file is full: nothing was done. -/
  | fileFull
  /-- The file after the write, and the position acknowledged. -/
  | written (data : Buffer UInt8 fileMaxSize) (ackFileStart : ℤ)
  /-- The 32-bit sum wrapped and the copy ran past the array. -/
  | overrun

/-- `WriteFile` on the octets: `-1` appends, and the size check is in `uint32_t` arithmetic. -/
def writeFileData (data : Buffer UInt8 fileMaxSize) (fileStart : ℤ) (fileData : List UInt8) :
    WriteResult :=
  let start := if fileStart = -1 then data.len else (fileStart % 2 ^ 32).toNat
  if (start + fileData.length) % 2 ^ 32 > fileMaxSize then .fileFull
  else if h : start + fileData.length ≤ fileMaxSize then
    .written (data.splice start fileData h) start
  else .overrun

/-- `ReadFile`: the octets copied out, and whether they reach the end. -/
def readFileData (data : Buffer UInt8 fileMaxSize)
    (fileStart requestedCount maxFileDataLength : ℕ) : List UInt8 × Bool :=
  if fileStart ≥ data.len then ([], true)
  else
    let toCopy := min (min (data.len - fileStart) requestedCount) maxFileDataLength
    ((data.toList.drop fileStart).take toCopy, decide (fileStart + toCopy ≥ data.len))

/-- `SetIvoryFileSize` on the octets: truncate, or extend with zeros. -/
def setFileSize (data : Buffer UInt8 fileMaxSize) (newSize : ℕ) :
    Option (Buffer UInt8 fileMaxSize) :=
  if h : newSize ≤ fileMaxSize then some (data.resize newSize 0 h) else none

end Controller
