import ElevatorController.Model.Values
import ElevatorController.Model.Ivory
import ElevatorController.Text.PrintReal

/-!
# Model/Image — the configuration image, and what a restore does with it

    B-AEC configuration 1
    analog-value 100 42.5

A backup prints the created Analog Values into Ivory, one line an object after a header line.  A
restore parses Ivory into a staging array of its own, line by line, and the main loop later makes
the created Analog Values exactly the staged ones.
-/

namespace Controller

open BinaryFormat Text

/-- `CONFIGURATION_IMAGE_HEADER`. -/
def configurationImageHeader : List UInt8 := ascii "B-AEC configuration 1\n"

/-- `CONFIGURATION_IMAGE_ANALOG_VALUE`. -/
def configurationImageAnalogValue : List UInt8 := ascii "analog-value"

/-! ## Building -/

/-- `"%s %u %.6g\n"` of a slot. -/
def imageLine (v : CreatedAnalogValue) : List UInt8 :=
  configurationImageAnalogValue ++ 32 :: printUnsigned v.objectInstance
    ++ 32 :: printG 6 (v.presentValue.convert binary64) ++ [10]

/-- `length += snprintf(g_fileData + length, FILE_MAX_SIZE - length, …)`: the text is cut to the
room there is, a NUL ends it, and the length grows by the whole text. -/
def printInto (s : (Fin fileMaxSize → UInt8) × ℕ) (text : List UInt8) :
    (Fin fileMaxSize → UInt8) × ℕ :=
  (Buffer.storeBlock s.1 s.2 (text.take (fileMaxSize - s.2 - 1) ++ [0]), s.2 + text.length)

/-- One slot of the table. -/
def buildStep (t : CreatedAnalogValues) (s : (Fin fileMaxSize → UInt8) × ℕ)
    (slot : Fin maxCreatedAnalogValues) : (Fin fileMaxSize → UInt8) × ℕ :=
  if (t slot).inUse ∧ s.2 < fileMaxSize then printInto s (imageLine (t slot)) else s

/-- The octets and the length printed. -/
def buildLoop (t : CreatedAnalogValues) (slots : Fin fileMaxSize → UInt8) :
    (Fin fileMaxSize → UInt8) × ℕ :=
  (List.finRange maxCreatedAnalogValues).foldl (buildStep t)
    (printInto (slots, 0) configurationImageHeader)

/-- `BuildConfigurationImage`, on the octets. -/
def buildConfigurationImage (t : CreatedAnalogValues) (data : Buffer UInt8 fileMaxSize) :
    Buffer UInt8 fileMaxSize where
  slots := (buildLoop t data.slots).1
  len := if (buildLoop t data.slots).2 < fileMaxSize then (buildLoop t data.slots).2
    else fileMaxSize
  len_le := by split <;> omega

/-! ## Parsing -/

structure RestoredAnalogValue where
  objectInstance : ℕ
  presentValue : binary32.Value
  deriving DecidableEq

/-- `g_restoredAnalogValues` and `g_restoredAnalogValueCount`. -/
abbrev RestoredAnalogValues : Type := Buffer RestoredAnalogValue maxCreatedAnalogValues

/-- One nonempty line: the word, an instance `strtoul` reads, a value `strtod` reads, nothing
more. -/
def parseImageLine (line : List UInt8) : Option RestoredAnalogValue :=
  if line.take configurationImageAnalogValue.length ≠ configurationImageAnalogValue then none
  else
    let instanceText := cString (line.drop configurationImageAnalogValue.length)
    let (parsedInstance, valueText) := strtoul instanceText
    let (parsedValue, parseEnd) := strtod valueText
    if valueText = instanceText ∨ parseEnd = valueText ∨ parseEnd ≠ []
        ∨ parsedInstance > 4194302 then none
    else some ⟨parsedInstance, parsedValue.convert binary32⟩

/-- The line loop: each readable line is staged at once, the count only when the image ends. -/
def parseLoop (image : List UInt8) (lineStart : ℕ) (staged : RestoredAnalogValues)
    (parsedCount : ℕ) (h : parsedCount ≤ maxCreatedAnalogValues) : Bool × RestoredAnalogValues :=
  if lineStart < image.length then
    let lineEnd := lineStart + (image.drop lineStart).findIdx (· == 10)
    let line := (image.drop lineStart).take (lineEnd - lineStart)
    if line = [] then parseLoop image (lineEnd + 1) staged parsedCount h
    else if hfull : parsedCount < maxCreatedAnalogValues then
      match parseImageLine line with
      | none => (false, staged)
      | some v => parseLoop image (lineEnd + 1) (staged.put parsedCount v) (parsedCount + 1) hfull
    else (false, staged)
  else (true, staged.setLen parsedCount h)
termination_by image.length - lineStart

/-- `ParseConfigurationImage`: the verdict, and the staging array it leaves. -/
def parseConfigurationImage (image : List UInt8) (staged : RestoredAnalogValues) :
    Bool × RestoredAnalogValues :=
  if image.take configurationImageHeader.length ≠ configurationImageHeader then (false, staged)
  else parseLoop image configurationImageHeader.length staged 0 (Nat.zero_le _)

/-! ## Applying -/

/-- The first loop's visit: delete what the image does not have. -/
def removeVisit (restored : RestoredAnalogValues) (v : CreatedAnalogValue) :
    CreatedAnalogValue × List StackCall :=
  if v.inUse ∧ ¬ restored.any (fun r => r.objectInstance == v.objectInstance) then
    ({ v with inUse := false }, [.removeObject objectTypeAnalogValue v.objectInstance])
  else (v, [])

/-- The second loop's step: recreate what is missing, and put every value back.  `addObject index`
is whether the stack's AddObject succeeds at that index of the list. -/
def restoreStep (addObject : ℕ → Bool) (s : CreatedAnalogValues × List StackCall)
    (r : RestoredAnalogValue × ℕ) : CreatedAnalogValues × List StackCall :=
  let added := StackCall.addObject objectTypeAnalogValue r.1.objectInstance
  let updated := StackCall.updateValue objectTypeAnalogValue r.1.objectInstance
    propertyIdentifierPresentValue
  match s.1.findCreated r.1.objectInstance with
  | some slot => (s.1.setPresentValue slot r.1.presentValue, s.2 ++ [updated])
  | none =>
    match s.1.findFree with
    | none => s
    | some slot =>
      if addObject r.2 then
        ((s.1.claim slot r.1.objectInstance).setPresentValue slot r.1.presentValue,
          s.2 ++ [added true, updated])
      else (s.1, s.2 ++ [added false])

/-- `ApplyRestoredConfiguration`: the table it leaves, and its calls into the stack. -/
def applyRestoredConfiguration (addObject : ℕ → Bool) (restored : RestoredAnalogValues)
    (t : CreatedAnalogValues) : CreatedAnalogValues × List StackCall :=
  restored.toList.zipIdx.foldl (restoreStep addObject) (SlotTable.sweep (removeVisit restored) t)

end Controller
