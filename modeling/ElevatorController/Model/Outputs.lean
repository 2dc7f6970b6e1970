import ElevatorController.Model.Protocol

/-!
# Model/Outputs — the commandable outputs

A `Commandable` is a 16-slot Priority_Array over a Relinquish_Default; slot `i` of the source's
arrays is priority `i + 1`.  Values are held as `double` whatever the object's own type.
-/

namespace Controller

open BinaryFormat

def bacnetPriorityArraySize : ℕ := 16
def multiStateOutputNumberOfStates : ℕ := 3

structure Commandable where
  isSet : Fin 16 → Bool
  value : Fin 16 → binary64.Value
  relinquishDefault : binary64.Value

/-- `{ { false }, { 0 }, relinquishDefault }`: every slot null. -/
def Commandable.atPowerOn (relinquishDefault : ℚ) : Commandable where
  isSet := fun _ => false
  value := fun _ => binary64.round 0
  relinquishDefault := binary64.round relinquishDefault

/-- `EffectivePriority`, as the index of its slot: out of range means the lowest priority. -/
def effectivePriority (priority : ℕ) : Fin 16 :=
  if h : 1 ≤ priority ∧ priority ≤ bacnetPriorityArraySize then
    ⟨priority - 1, by have := h.2; rw [bacnetPriorityArraySize] at this; omega⟩
  else 15

/-- `CommandWrite`. -/
def Commandable.commandWrite (c : Commandable) (priority : ℕ) (value : binary64.Value) :
    Commandable :=
  { c with
    isSet := Function.update c.isSet (effectivePriority priority) true
    value := Function.update c.value (effectivePriority priority) value }

/-- `CommandRelinquish`. -/
def Commandable.commandRelinquish (c : Commandable) (priority : ℕ) : Commandable :=
  { c with isSet := Function.update c.isSet (effectivePriority priority) false }

/-- `ReadPrioritySlot`: whether the slot is commanded and its value, if this is a read of a single
element of the Priority_Array. -/
def Commandable.readPrioritySlot (c : Commandable) (propertyIdentifier : ℕ)
    (propertyArrayIndex : Option ℕ) : Option (Bool × binary64.Value) :=
  match propertyArrayIndex with
  | none => none
  | some index =>
    if h : propertyIdentifier ≠ propertyIdentifierPriorityArray ∨ index < 1
        ∨ index > bacnetPriorityArraySize then none
    else
      have hlt : index - 1 < 16 := by
        rw [bacnetPriorityArraySize] at h
        omega
      some (c.isSet ⟨index - 1, hlt⟩, c.value ⟨index - 1, hlt⟩)

/-- `(uint32_t)` of a `double`: the integral part, where C defines it. -/
def castUnsigned : binary64.Value → ℕ
  | .finite q _ => ⌊q⌋.toNat
  | _ => 0

/-- `(double)` of a `uint32_t`. -/
def castDouble (n : ℕ) : binary64.Value := binary64.round n

end Controller
