import ElevatorController.Model.MainLoop

/-!
# Device/Frame — what a request may change

Every request names at most one `Component` of the state.  `Framed` is the contract of a callback:
refused, it leaves the state as it was; accepted, it leaves everything but its component.

One callback is outside it: `CompleteRestore` parses the file into the staging array and may then
refuse.
-/

namespace Controller

/-! ## Components -/

/-- A part of the state that a request may name. -/
inductive Component where
  /-- One slot of one output's priority array. -/
  | prioritySlot (o : Output) (slot : Fin 16)
  /-- The created Analog Value of one instance. -/
  | createdObject (objectInstance : ℕ)
  /-- Ivory: its octets and length, Archive and Modification_Date. -/
  | file
  /-- The call list, with the last landing call. -/
  | landingCalls
  | clockOffset
  | restart

/-- `s'` is `s` but for the component. -/
def Component.Frames : Component → State → State → Prop
  | .prioritySlot o slot, s, s' => ∃ isSet value, s' = s.setOutput o
      { s.outputs o with
        isSet := Function.update (s.outputs o).isSet slot isSet
        value := Function.update (s.outputs o).value slot value }
  | .createdObject objectInstance, s, s' => ∃ slot v,
      s' = { s with createdAnalogValues := Function.update s.createdAnalogValues slot v }
      ∧ v.objectInstance = objectInstance
      ∧ ((s.createdAnalogValues slot).inUse = true →
        (s.createdAnalogValues slot).objectInstance = objectInstance)
  | .file, s, s' => ∃ ivory, s' = { s with ivory := ivory }
  | .landingCalls, s, s' => ∃ calls last,
      s' = { s with liftCar := { s.liftCar with calls := calls }, lastLandingCallControl := last }
  | .clockOffset, s, s' => ∃ offset, s' = { s with clockOffsetSeconds := offset }
  | .restart, s, s' => ∃ restart, s' = { s with restart := restart }

/-- The component a request names, if it names any. -/
def Request.component : Request → Option Component
  | .setPropertyReal p _ priority =>
    if p.objectType = objectTypeAnalogOutput then
      some (.prioritySlot .analog (effectivePriority priority))
    else some (.createdObject p.objectInstance)
  | .setPropertyEnumerated _ _ priority =>
    some (.prioritySlot .binary (effectivePriority priority))
  | .setPropertyUnsignedInteger _ p _ priority =>
    if p.objectType = objectTypeFile then some .file
    else some (.prioritySlot .multiState (effectivePriority priority))
  | .setPropertyBool _ _ => some .file
  | .setPropertyNull p priority =>
    (getCommandable p.objectType p.objectInstance).map fun o =>
      .prioritySlot o (effectivePriority priority)
  | .setElevatorGroupLandingCallControl _ => some .landingCalls
  | .setSystemTime _ _ => some .clockOffset
  | .deviceCommunicationControl _ _ => none
  | .reinitializeDevice _ _ reinitializedState _ =>
    if reinitializedState = reinitializeStateColdstart
        ∨ reinitializedState = reinitializeStateWarmstart then some .restart else none
  | .writeFile _ _ _ _ _ => some .file
  | .prepareBackup _ _ => some .file
  | .completeBackup _ => none
  | .prepareRestore _ => some .file
  | .completeRestore _ _ => none
  | .createObject _ _ objectInstance => some (.createdObject objectInstance)
  | .deleteObject _ _ objectInstance => some (.createdObject objectInstance)

/-- `s'` is `s` but for the component, if there is one. -/
def FramesOption (c : Option Component) (s s' : State) : Prop :=
  match c with
  | none => s' = s
  | some c => c.Frames s s'

/-- **The contract of a callback**: refused, nothing changes; accepted, only the component. -/
def Framed (c : Option Component) (s : State) (r : Reply × State) : Prop :=
  (r.1.accepted = false → r.2 = s) ∧ (r.1.accepted = true → FramesOption c s r.2)

theorem framed_decline {c : Option Component} {s : State} : Framed c s (.decline, s) :=
  ⟨fun _ => rfl, fun h => absurd h (by simp)⟩

theorem framed_declineWith {c : Option Component} {s : State} {code : ℕ} :
    Framed c s (.declineWith code, s) := ⟨fun _ => rfl, fun h => absurd h (by simp)⟩

theorem framed_accept_none {s : State} : Framed none s (.accept, s) := ⟨fun _ => rfl, fun _ => rfl⟩

theorem framed_accept {c : Component} {s s' : State} (h : c.Frames s s') :
    Framed (some c) s (.accept, s') := ⟨fun h => absurd h (by simp), fun _ => h⟩

/-! ## The callbacks -/

section

variable (cfg : Config) (s : State)

theorem frames_commandWrite (o : Output) (priority : ℕ) (value : BinaryFormat.binary64.Value) :
    (Component.prioritySlot o (effectivePriority priority)).Frames s
      (s.setOutput o ((s.outputs o).commandWrite priority value)) := ⟨true, value, rfl⟩

theorem frames_commandRelinquish (o : Output) (priority : ℕ) :
    (Component.prioritySlot o (effectivePriority priority)).Frames s
      (s.setOutput o ((s.outputs o).commandRelinquish priority)) :=
  ⟨false, (s.outputs o).value (effectivePriority priority), by
    rw [Function.update_eq_self]
    rfl⟩

/-- A store into the slot of a tracked instance touches that instance only. -/
theorem frames_of_findCreated {objectInstance : ℕ} {slot : Fin maxCreatedAnalogValues}
    (h : s.createdAnalogValues.findCreated objectInstance = some slot) {v : CreatedAnalogValue}
    (hv : v.objectInstance = (s.createdAnalogValues slot).objectInstance) :
    (Component.createdObject objectInstance).Frames s
      { s with createdAnalogValues := Function.update s.createdAnalogValues slot v } := by
  obtain ⟨-, hkey⟩ := SlotTable.find_eq_some h
  exact ⟨slot, v, rfl, hv.trans hkey, fun _ => hkey⟩

theorem setPropertyReal_framed (p : PropertyReference) (value : BinaryFormat.binary32.Value)
    (priority : ℕ) : Framed (Request.setPropertyReal p value priority).component s
      (setPropertyReal cfg p value priority s) := by
  rw [setPropertyReal, Request.component]
  by_cases hdev : p.deviceInstance = cfg.deviceInstance
  swap
  · rw [if_pos hdev]
    exact framed_decline
  rw [if_neg (not_not.mpr hdev)]
  by_cases hout : p.names objectTypeAnalogOutput analogOutputInstance propertyIdentifierPresentValue
  · rw [if_pos hout, if_pos hout.1]
    exact framed_accept (frames_commandWrite s _ _ _)
  rw [if_neg hout]
  by_cases hvalue : p.objectType = objectTypeAnalogValue
      ∧ p.propertyIdentifier = propertyIdentifierPresentValue
  swap
  · rw [if_neg hvalue]
    exact framed_decline
  have htype : p.objectType ≠ objectTypeAnalogOutput := fun h =>
    absurd (h.symm.trans hvalue.1) (by decide)
  rw [if_pos hvalue, if_neg htype, CreatedAnalogValues.write]
  cases hfind : s.createdAnalogValues.findCreated p.objectInstance with
  | none => exact framed_decline
  | some slot => exact framed_accept (frames_of_findCreated s hfind rfl)

theorem setPropertyEnumerated_framed (p : PropertyReference) (value priority : ℕ) :
    Framed (Request.setPropertyEnumerated p value priority).component s
      (setPropertyEnumerated cfg p value priority s) := by
  rw [setPropertyEnumerated]
  split
  · exact framed_decline
  split
  · split
    · exact framed_declineWith
    · exact framed_accept (frames_commandWrite s _ _ _)
  · exact framed_decline

theorem setPropertyUnsignedInteger_framed (now : ℤ) (p : PropertyReference)
    (value priority : ℕ) :
    Framed (Request.setPropertyUnsignedInteger now p value priority).component s
      (setPropertyUnsignedInteger cfg now p value priority s) := by
  rw [setPropertyUnsignedInteger]
  split
  · exact framed_decline
  split
  · rename_i hout
    have htype : p.objectType ≠ objectTypeFile := fun h =>
      absurd (h.symm.trans hout.1) (by decide)
    rw [Request.component, if_neg htype]
    split
    · exact framed_declineWith
    · exact framed_accept (frames_commandWrite s _ _ _)
  split
  · rename_i hfile
    rw [Request.component, if_pos hfile.1, setIvoryFileSize.eq_def]
    split
    · exact framed_declineWith
    · exact framed_accept ⟨_, rfl⟩
  · exact framed_decline

theorem setPropertyBool_framed (p : PropertyReference) (value : Bool) :
    Framed (Request.setPropertyBool p value).component s (setPropertyBool cfg p value s) := by
  rw [setPropertyBool]
  split
  · exact framed_decline
  · exact framed_accept ⟨_, rfl⟩

theorem setPropertyNull_framed (p : PropertyReference) (priority : ℕ) :
    Framed (Request.setPropertyNull p priority).component s (setPropertyNull cfg p priority s) := by
  rw [setPropertyNull.eq_def, Request.component]
  split
  · exact framed_decline
  cases getCommandable p.objectType p.objectInstance with
  | none => exact framed_decline
  | some o =>
    dsimp only [Option.map_some]
    split
    · exact framed_accept (frames_commandRelinquish s _ _)
    · exact framed_decline

theorem setElevatorGroupLandingCallControl_framed (w : LandingCallWrite) :
    Framed (Request.setElevatorGroupLandingCallControl w).component s
      (setElevatorGroupLandingCallControl cfg w s) := by
  rw [setElevatorGroupLandingCallControl.eq_def]
  split
  · exact framed_decline
  split
  · exact framed_decline
  split
  · exact framed_decline
  · rename_i car hcar
    refine framed_accept ?_
    rw [LiftCar.addCall] at hcar
    split at hcar
    · obtain rfl := Option.some.inj hcar
      exact ⟨s.liftCar.calls, _, rfl⟩
    · split at hcar
      · obtain rfl := Option.some.inj hcar
        exact ⟨_, _, rfl⟩
      · cases hcar

theorem setSystemTime_framed (now : ℤ) (r : TimeSynchronization) :
    Framed (Request.setSystemTime now r).component s (setSystemTime cfg now r s) := by
  rw [setSystemTime.eq_def]
  split
  · exact framed_decline
  split
  · exact framed_decline
  · exact framed_accept ⟨_, rfl⟩

theorem deviceCommunicationControl_framed (deviceInstance : ℕ)
    (password : Option (List UInt8)) :
    Framed (Request.deviceCommunicationControl deviceInstance password).component s
      (deviceCommunicationControl cfg deviceInstance password s) := by
  rw [deviceCommunicationControl]
  split
  · exact framed_declineWith
  split
  · exact framed_declineWith
  · exact framed_accept_none

theorem reinitializeDevice_framed (nowMs deviceInstance reinitializedState : ℕ)
    (password : Option (List UInt8)) :
    Framed (Request.reinitializeDevice nowMs deviceInstance reinitializedState password).component
      s (reinitializeDevice cfg nowMs deviceInstance reinitializedState password s) := by
  rw [reinitializeDevice]
  split
  · exact framed_declineWith
  split
  · exact framed_declineWith
  split
  · rename_i hcold
    rw [Request.component, if_pos (Or.inl hcold)]
    exact framed_accept ⟨_, rfl⟩
  split
  · rename_i hwarm
    rw [Request.component, if_pos (Or.inr hwarm)]
    exact framed_accept ⟨_, rfl⟩
  split
  · rename_i hcold hwarm _
    rw [Request.component, if_neg (not_or.mpr ⟨hcold, hwarm⟩)]
    exact framed_accept_none
  · exact framed_declineWith

/-- A position and a length whose sum stays in `uint32_t` never overrun the array. -/
theorem writeFileData_ne_overrun (data : Buffer UInt8 fileMaxSize) {fileStart : ℤ}
    {fileData : List UInt8} (hlo : -1 ≤ fileStart) (hhi : fileStart < 2 ^ 31)
    (hlen : fileData.length < 2 ^ 31) : writeFileData data fileStart fileData ≠ .overrun := by
  have hdata : data.len ≤ 4096 := data.len_le
  have hstart : (if fileStart = -1 then data.len else (fileStart % 2 ^ 32).toNat) < 2 ^ 31 := by
    split <;> omega
  rw [writeFileData]
  generalize (if fileStart = -1 then data.len else (fileStart % 2 ^ 32).toNat) = start at hstart
  have hsum : (start + fileData.length) % 2 ^ 32 = start + fileData.length :=
    Nat.mod_eq_of_lt (by omega)
  by_cases hfits : start + fileData.length ≤ fileMaxSize
  · rw [hsum, if_neg (not_lt.mpr hfits), dif_pos hfits]
    exact WriteResult.noConfusion
  · rw [hsum, if_pos (not_le.mp hfits)]
    exact WriteResult.noConfusion

theorem writeFile_framed (now : ℤ) (deviceInstance file : ℕ) {fileStart : ℤ}
    {fileData : List UInt8} (hlo : -1 ≤ fileStart) (hhi : fileStart < 2 ^ 31)
    (hlen : fileData.length < 2 ^ 31) :
    ∃ reply ack s', writeFile cfg now deviceInstance file fileStart fileData s
        = some (reply, ack, s')
      ∧ Framed (some .file) s (reply, s') := by
  rw [writeFile.eq_def]
  split
  · exact ⟨_, _, _, rfl, framed_decline⟩
  split
  · exact ⟨_, _, _, rfl, framed_decline⟩
  · exact ⟨_, _, _, rfl, framed_accept ⟨_, rfl⟩⟩
  · rename_i hover
    exact absurd hover (writeFileData_ne_overrun _ hlo hhi hlen)

theorem prepareBackup_framed (now : ℤ) (deviceInstance : ℕ) :
    Framed (Request.prepareBackup now deviceInstance).component s
      (prepareBackup cfg now deviceInstance s) := by
  rw [prepareBackup]
  split
  · exact framed_decline
  · exact framed_accept ⟨_, rfl⟩

theorem completeBackup_framed (deviceInstance : ℕ) :
    Framed (Request.completeBackup deviceInstance).component s
      (completeBackup cfg deviceInstance s) := by
  rw [completeBackup]
  split
  · exact framed_decline
  · exact framed_accept_none

theorem prepareRestore_framed (deviceInstance : ℕ) :
    Framed (Request.prepareRestore deviceInstance).component s
      (prepareRestore cfg deviceInstance s) := by
  rw [prepareRestore]
  split
  · exact framed_decline
  · exact framed_accept ⟨_, rfl⟩

theorem createObject_framed (deviceInstance objectType objectInstance : ℕ) :
    Framed (Request.createObject deviceInstance objectType objectInstance).component s
      (createObject cfg deviceInstance objectType objectInstance s) := by
  rw [createObject.eq_def]
  split
  · exact framed_decline
  split
  · exact framed_decline
  rw [CreatedAnalogValues.create.eq_def]
  cases s.createdAnalogValues.findCreated objectInstance with
  | some _ => exact framed_decline
  | none =>
    cases hfree : s.createdAnalogValues.findFree with
    | none => exact framed_decline
    | some slot =>
      have hslot : (s.createdAnalogValues slot).inUse = false := SlotTable.free_eq_some hfree
      refine framed_accept ⟨slot, ⟨true, objectInstance, BinaryFormat.binary32.round 0⟩, ?_, rfl,
        fun h => absurd h (by simp [hslot])⟩
      simp [CreatedAnalogValues.claim, CreatedAnalogValues.setPresentValue]

theorem deleteObject_framed (deviceInstance objectType objectInstance : ℕ) :
    Framed (Request.deleteObject deviceInstance objectType objectInstance).component s
      (deleteObject cfg deviceInstance objectType objectInstance s) := by
  rw [deleteObject.eq_def]
  split
  · exact framed_decline
  split
  · exact framed_decline
  rw [CreatedAnalogValues.delete.eq_def]
  cases hfind : s.createdAnalogValues.findCreated objectInstance with
  | none => exact framed_decline
  | some slot => exact framed_accept (frames_of_findCreated s hfind rfl)

end

/-! ## Every request -/

/-- Every callback but `CompleteRestore`; a `WriteFile` with a position from −1 and fewer than 2³¹
octets, as `int32_t` and the service have it. -/
def Request.IsFramed : Request → Prop
  | .writeFile _ _ _ fileStart fileData =>
    -1 ≤ fileStart ∧ fileStart < 2 ^ 31 ∧ fileData.length < 2 ^ 31
  | .completeRestore _ _ => False
  | _ => True

/-- Each request that `IsFramed` is answered, within its contract. -/
theorem Request.framed (cfg : Config) (s : State) (r : Request) (hr : r.IsFramed) :
    ∃ reply s', r.perform cfg s = some (reply, s') ∧ Framed r.component s (reply, s') := by
  cases r with
  | setPropertyReal p value priority =>
    exact ⟨_, _, rfl, setPropertyReal_framed cfg s p value priority⟩
  | setPropertyEnumerated p value priority =>
    exact ⟨_, _, rfl, setPropertyEnumerated_framed cfg s p value priority⟩
  | setPropertyUnsignedInteger now p value priority =>
    exact ⟨_, _, rfl, setPropertyUnsignedInteger_framed cfg s now p value priority⟩
  | setPropertyBool p value => exact ⟨_, _, rfl, setPropertyBool_framed cfg s p value⟩
  | setPropertyNull p priority => exact ⟨_, _, rfl, setPropertyNull_framed cfg s p priority⟩
  | setElevatorGroupLandingCallControl w =>
    exact ⟨_, _, rfl, setElevatorGroupLandingCallControl_framed cfg s w⟩
  | setSystemTime now r => exact ⟨_, _, rfl, setSystemTime_framed cfg s now r⟩
  | deviceCommunicationControl deviceInstance password =>
    exact ⟨_, _, rfl, deviceCommunicationControl_framed cfg s deviceInstance password⟩
  | reinitializeDevice nowMs deviceInstance reinitializedState password =>
    exact ⟨_, _, rfl, reinitializeDevice_framed cfg s nowMs deviceInstance _ password⟩
  | writeFile now deviceInstance file fileStart fileData =>
    obtain ⟨hlo, hhi, hlen⟩ := hr
    obtain ⟨reply, ack, s', hwrite, hframed⟩ :=
      writeFile_framed cfg s now deviceInstance file hlo hhi hlen
    refine ⟨reply, s', ?_, hframed⟩
    rw [Request.perform, hwrite]
    rfl
  | prepareBackup now deviceInstance =>
    exact ⟨_, _, rfl, prepareBackup_framed cfg s now deviceInstance⟩
  | completeBackup deviceInstance => exact ⟨_, _, rfl, completeBackup_framed cfg s deviceInstance⟩
  | prepareRestore deviceInstance => exact ⟨_, _, rfl, prepareRestore_framed cfg s deviceInstance⟩
  | completeRestore deviceInstance wasAborted => exact hr.elim
  | createObject deviceInstance objectType objectInstance =>
    exact ⟨_, _, rfl, createObject_framed cfg s deviceInstance objectType objectInstance⟩
  | deleteObject deviceInstance objectType objectInstance =>
    exact ⟨_, _, rfl, deleteObject_framed cfg s deviceInstance objectType objectInstance⟩

/-- **A refused request changes nothing, and an accepted one touches only its own component** — one
priority slot, one created object, the file, the landing calls, the clock offset or the restart, as
the request names it. -/
theorem request_touches_only_its_component (cfg : Config) (s : State) (r : Request)
    (hr : r.IsFramed) : ∃ reply s', r.perform cfg s = some (reply, s')
      ∧ (reply.accepted = false → s' = s)
      ∧ (reply.accepted = true → match r.component with
        | none => s' = s
        | some c => c.Frames s s') := r.framed cfg s hr

/-- Two octets appended to the empty file. -/
theorem request_touches_only_its_component_append :
    let cfg := Config.standard .utc
    let r := Request.writeFile 0 389014 1 (-1) [72, 105]
    ∃ reply s', r.perform cfg (.powerOn cfg 0) = some (reply, s')
      ∧ (reply.accepted = false → s' = .powerOn cfg 0)
      ∧ (reply.accepted = true → match r.component with
        | none => s' = .powerOn cfg 0
        | some c => c.Frames (.powerOn cfg 0) s') :=
  request_touches_only_its_component _ _ _ ⟨by norm_num, by norm_num, by norm_num⟩

/-! ## What a component leaves alone -/

/-- What two states have in common that differ in the component only. -/
structure KeptOutside (c : Option Component) (s s' : State) : Prop where
  restoredAnalogValues : s'.restoredAnalogValues = s.restoredAnalogValues
  restorePending : s'.restorePending = s.restorePending
  ivory : c ≠ some .file → s'.ivory = s.ivory
  createdAnalogValues : (∀ n, c ≠ some (.createdObject n)) →
    s'.createdAnalogValues = s.createdAnalogValues
  lastLandingCallControl : c ≠ some .landingCalls →
    s'.lastLandingCallControl = s.lastLandingCallControl
  restart : c ≠ some .restart → s'.restart = s.restart

/-- **A component holds its own fields only**, and none holds the staging array. -/
theorem FramesOption.kept {c : Option Component} {s s' : State} (h : FramesOption c s s') :
    KeptOutside c s s' := by
  rcases c with _ | c
  · obtain rfl : s' = s := h
    exact ⟨rfl, rfl, fun _ => rfl, fun _ => rfl, fun _ => rfl, fun _ => rfl⟩
  cases c with
  | prioritySlot o slot =>
    obtain ⟨_, _, rfl⟩ := h
    exact ⟨rfl, rfl, fun _ => rfl, fun _ => rfl, fun _ => rfl, fun _ => rfl⟩
  | createdObject objectInstance =>
    obtain ⟨_, _, rfl, -⟩ := h
    exact ⟨rfl, rfl, fun _ => rfl, fun hc => absurd rfl (hc _), fun _ => rfl, fun _ => rfl⟩
  | file =>
    obtain ⟨_, rfl⟩ := h
    exact ⟨rfl, rfl, fun hc => absurd rfl hc, fun _ => rfl, fun _ => rfl, fun _ => rfl⟩
  | landingCalls =>
    obtain ⟨_, _, rfl⟩ := h
    exact ⟨rfl, rfl, fun _ => rfl, fun _ => rfl, fun hc => absurd rfl hc, fun _ => rfl⟩
  | clockOffset =>
    obtain ⟨_, rfl⟩ := h
    exact ⟨rfl, rfl, fun _ => rfl, fun _ => rfl, fun _ => rfl, fun _ => rfl⟩
  | restart =>
    obtain ⟨_, rfl⟩ := h
    exact ⟨rfl, rfl, fun _ => rfl, fun _ => rfl, fun _ => rfl, fun hc => absurd rfl hc⟩

/-- A framed request reaches a state its contract allows, whatever the answer. -/
theorem Request.framesOption_step (cfg : Config) (s : State) {r : Request} (hr : r.IsFramed) :
    FramesOption r.component s (Event.step cfg s (.request r))
      ∨ Event.step cfg s (.request r) = s := by
  obtain ⟨reply, s', hperform, hrefused, haccepted⟩ := r.framed cfg s hr
  rw [Event.step, hperform]
  cases h : reply.accepted with
  | false => exact Or.inr (hrefused h)
  | true => exact Or.inl (haccepted h)

/-- **What any request can do**, whatever the answer: what its component allows, or nothing, or —
`CompleteRestore` — fill the staging array. -/
theorem Request.step_cases (cfg : Config) (s : State) (r : Request) :
    FramesOption r.component s (Event.step cfg s (.request r))
      ∨ Event.step cfg s (.request r) = s
      ∨ ∃ deviceInstance wasAborted restored pending,
        r = .completeRestore deviceInstance wasAborted ∧ Event.step cfg s (.request r)
          = { s with restoredAnalogValues := restored, restorePending := pending } := by
  have hframed := fun hr : r.IsFramed => (Request.framesOption_step cfg s hr).imp_right
    (Or.inl (b := ∃ deviceInstance wasAborted restored pending,
      r = .completeRestore deviceInstance wasAborted ∧ Event.step cfg s (.request r)
        = { s with restoredAnalogValues := restored, restorePending := pending }))
  cases r with
  | writeFile now deviceInstance file fileStart fileData =>
    rw [Event.step, Request.perform, writeFile.eq_def]
    split
    · exact Or.inr (Or.inl rfl)
    split
    · exact Or.inr (Or.inl rfl)
    · exact Or.inl ⟨_, rfl⟩
    · exact Or.inr (Or.inl rfl)
  | completeRestore deviceInstance wasAborted =>
    rw [Event.step, Request.perform, Controller.completeRestore]
    split
    · exact Or.inr (Or.inl rfl)
    split
    · exact Or.inr (Or.inl rfl)
    refine Or.inr (Or.inr ⟨deviceInstance, wasAborted, ?_⟩)
    dsimp only
    split
    · exact ⟨_, _, rfl, rfl⟩
    · exact ⟨_, s.restorePending, rfl, rfl⟩
  | _ => exact hframed trivial

/-! ## Which request names which component -/

/-- Only a landing-call write names the landing calls. -/
theorem Request.component_ne_landingCalls {r : Request}
    (hr : ∀ w, r ≠ .setElevatorGroupLandingCallControl w) : r.component ≠ some .landingCalls := by
  cases r with
  | setElevatorGroupLandingCallControl w => exact absurd rfl (hr w)
  | setPropertyReal | setPropertyUnsignedInteger | reinitializeDevice =>
    rw [component]
    split <;> exact nofun
  | setPropertyNull p priority =>
    rw [component]
    cases getCommandable p.objectType p.objectInstance <;> exact nofun
  | _ => exact nofun

/-- Only a real write, a CreateObject or a DeleteObject names a created object. -/
theorem Request.component_ne_createdObject {r : Request}
    (hset : ∀ p value priority, r ≠ .setPropertyReal p value priority)
    (hcreate : ∀ deviceInstance objectType n, r ≠ .createObject deviceInstance objectType n)
    (hdelete : ∀ deviceInstance objectType n, r ≠ .deleteObject deviceInstance objectType n)
    (n : ℕ) : r.component ≠ some (.createdObject n) := by
  cases r with
  | setPropertyReal p value priority => exact absurd rfl (hset p value priority)
  | createObject deviceInstance objectType n => exact absurd rfl (hcreate deviceInstance _ n)
  | deleteObject deviceInstance objectType n => exact absurd rfl (hdelete deviceInstance _ n)
  | setPropertyUnsignedInteger | reinitializeDevice =>
    rw [component]
    split <;> exact nofun
  | setPropertyNull p priority =>
    rw [component]
    cases getCommandable p.objectType p.objectInstance <;> exact nofun
  | _ => exact nofun

/-- Only a ReinitializeDevice names the restart. -/
theorem Request.component_ne_restart {r : Request}
    (hr : ∀ nowMs deviceInstance reinitializedState password,
      r ≠ .reinitializeDevice nowMs deviceInstance reinitializedState password) :
    r.component ≠ some .restart := by
  cases r with
  | reinitializeDevice nowMs deviceInstance reinitializedState password =>
    exact absurd rfl (hr nowMs deviceInstance _ password)
  | setPropertyReal | setPropertyUnsignedInteger =>
    rw [component]
    split <;> exact nofun
  | setPropertyNull p priority =>
    rw [component]
    cases getCommandable p.objectType p.objectInstance <;> exact nofun
  | _ => exact nofun

/-- Of the requests, only a landing-call write moves the last landing call. -/
theorem Request.lastLandingCallControl_step (cfg : Config) (s : State) {r : Request}
    (hr : ∀ w, r ≠ .setElevatorGroupLandingCallControl w) :
    (Event.step cfg s (.request r)).lastLandingCallControl = s.lastLandingCallControl := by
  obtain h | h | ⟨_, _, _, _, -, h⟩ := r.step_cases cfg s
  · exact h.kept.lastLandingCallControl (Request.component_ne_landingCalls hr)
  · rw [h]
  · rw [h]

/-- Of the requests, only a ReinitializeDevice moves the deferred restart. -/
theorem Request.restart_step (cfg : Config) (s : State) {r : Request}
    (hr : ∀ nowMs deviceInstance reinitializedState password,
      r ≠ .reinitializeDevice nowMs deviceInstance reinitializedState password) :
    (Event.step cfg s (.request r)).restart = s.restart := by
  obtain h | h | ⟨_, _, _, _, -, h⟩ := r.step_cases cfg s
  · exact h.kept.restart (Request.component_ne_restart hr)
  · rw [h]
  · rw [h]

/-- Of the requests, only a real write, a CreateObject or a DeleteObject moves the created
objects. -/
theorem Request.createdAnalogValues_step (cfg : Config) (s : State) {r : Request}
    (hset : ∀ p value priority, r ≠ .setPropertyReal p value priority)
    (hcreate : ∀ deviceInstance objectType n, r ≠ .createObject deviceInstance objectType n)
    (hdelete : ∀ deviceInstance objectType n, r ≠ .deleteObject deviceInstance objectType n) :
    (Event.step cfg s (.request r)).createdAnalogValues = s.createdAnalogValues := by
  obtain h | h | ⟨_, _, _, _, -, h⟩ := r.step_cases cfg s
  · exact h.kept.createdAnalogValues (Request.component_ne_createdObject hset hcreate hdelete)
  · rw [h]
  · rw [h]

end Controller
