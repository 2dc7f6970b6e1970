import ElevatorController.Machinery.SlotTable
import ElevatorController.Model.Protocol

/-!
# Model/Values — the Analog Values a client created

The application holds them in a table of its own, beside the stack's object database: a slot is
taken when CreateObject is accepted and given back by DeleteObject.
-/

namespace Controller

open BinaryFormat

def maxCreatedAnalogValues : ℕ := 8

structure CreatedAnalogValue where
  inUse : Bool
  objectInstance : ℕ
  presentValue : binary32.Value
  deriving DecidableEq

/-- `g_createdAnalogValues`. -/
abbrev CreatedAnalogValues : Type := Fin maxCreatedAnalogValues → CreatedAnalogValue

namespace CreatedAnalogValues

/-- Zero-initialised static storage: every slot free. -/
def atPowerOn : CreatedAnalogValues := fun _ => ⟨false, 0, binary32.round 0⟩

/-- `FindCreatedAnalogValue`, as a slot index. -/
def findCreated (t : CreatedAnalogValues) (objectInstance : ℕ) :
    Option (Fin maxCreatedAnalogValues) :=
  SlotTable.find CreatedAnalogValue.inUse CreatedAnalogValue.objectInstance t objectInstance

/-- `FindFreeAnalogValueSlot`, as a slot index. -/
def findFree (t : CreatedAnalogValues) : Option (Fin maxCreatedAnalogValues) :=
  SlotTable.free CreatedAnalogValue.inUse t

/-- `slot->presentValue = value`. -/
def setPresentValue (t : CreatedAnalogValues) (slot : Fin maxCreatedAnalogValues)
    (value : binary32.Value) : CreatedAnalogValues :=
  Function.update t slot { t slot with presentValue := value }

/-- `slot->inUse = false`. -/
def release (t : CreatedAnalogValues) (slot : Fin maxCreatedAnalogValues) : CreatedAnalogValues :=
  Function.update t slot { t slot with inUse := false }

/-- `slot->inUse = true; slot->objectInstance = objectInstance`. -/
def claim (t : CreatedAnalogValues) (slot : Fin maxCreatedAnalogValues) (objectInstance : ℕ) :
    CreatedAnalogValues :=
  Function.update t slot { t slot with inUse := true, objectInstance := objectInstance }

/-- The table after an accepted CreateObject; a tracked instance or a full table refuses. -/
def create (t : CreatedAnalogValues) (objectInstance : ℕ) : Option CreatedAnalogValues :=
  match t.findCreated objectInstance with
  | some _ => none
  | none =>
    match t.findFree with
    | none => none
    | some slot => some ((t.claim slot objectInstance).setPresentValue slot (binary32.round 0))

/-- The table after an accepted DeleteObject; an instance not tracked refuses. -/
def delete (t : CreatedAnalogValues) (objectInstance : ℕ) : Option CreatedAnalogValues :=
  match t.findCreated objectInstance with
  | none => none
  | some slot => some (t.release slot)

/-- The table after a write of Present_Value; an instance not tracked declines. -/
def write (t : CreatedAnalogValues) (objectInstance : ℕ) (value : binary32.Value) :
    Option CreatedAnalogValues :=
  match t.findCreated objectInstance with
  | none => none
  | some slot => some (t.setPresentValue slot value)

end CreatedAnalogValues

end Controller
