import ElevatorController.Outputs.PriorityArray

/-!
# Outputs/Commands — runs of commands, and the value the stack resolves

A run of writes, relinquishments and COLDSTARTs is played twice: by the callbacks, on the
application's state, and by `Commands.take`, on three priority maps that no two events of different
outputs share.  `State.Holds` survives every event, so at the end the callbacks' answers are the
maps' — and with them the Present_Value the stack resolves.
-/

namespace Controller

open BinaryFormat

variable {cfg : Config} {s : State} {cmds : Commands}

/-! ## Events -/

/-- What may happen to the outputs. -/
inductive OutputEvent where
  | setPropertyReal (p : PropertyReference) (value : binary32.Value) (priority : ℕ)
  | setPropertyEnumerated (p : PropertyReference) (value priority : ℕ)
  | setPropertyUnsignedInteger (now : ℤ) (p : PropertyReference) (value priority : ℕ)
  | setPropertyNull (p : PropertyReference) (priority : ℕ)
  | coldstart

/-- One event, as the application takes it. -/
def OutputEvent.step (cfg : Config) (s : State) : OutputEvent → State
  | .setPropertyReal p value priority => (Controller.setPropertyReal cfg p value priority s).2
  | .setPropertyEnumerated p value priority =>
    (Controller.setPropertyEnumerated cfg p value priority s).2
  | .setPropertyUnsignedInteger now p value priority =>
    (Controller.setPropertyUnsignedInteger cfg now p value priority s).2
  | .setPropertyNull p priority => (Controller.setPropertyNull cfg p priority s).2
  | .coldstart => s.coldstart

/-- The reference is to an output's Present_Value on this device. -/
def Output.IsPresentValue (cfg : Config) (o : Output) (p : PropertyReference) : Prop :=
  p.deviceInstance = cfg.deviceInstance ∧ p.names o.objectType 1 propertyIdentifierPresentValue

instance (cfg : Config) (o : Output) (p : PropertyReference) :
    Decidable (o.IsPresentValue cfg p) := by
  unfold Output.IsPresentValue
  infer_instance

/-- One event, as three priority maps take it. -/
def Commands.take (cfg : Config) (cmds : Commands) : OutputEvent → Commands
  | .setPropertyReal p value priority =>
    if Output.analog.IsPresentValue cfg p then
      { cmds with analog := cmds.analog.command priority value }
    else cmds
  | .setPropertyEnumerated p value priority =>
    if Output.binary.IsPresentValue cfg p ∧ value ≤ 1 then
      { cmds with binary := cmds.binary.command priority value }
    else cmds
  | .setPropertyUnsignedInteger _ p value priority =>
    if Output.multiState.IsPresentValue cfg p ∧ 1 ≤ value ∧ value ≤ 3 then
      { cmds with multiState := cmds.multiState.command priority value }
    else cmds
  | .setPropertyNull p priority =>
    if Output.analog.IsPresentValue cfg p then
      { cmds with analog := cmds.analog.relinquish priority }
    else if Output.binary.IsPresentValue cfg p then
      { cmds with binary := cmds.binary.relinquish priority }
    else if Output.multiState.IsPresentValue cfg p then
      { cmds with multiState := cmds.multiState.relinquish priority }
    else cmds
  | .coldstart => .none

/-! ## One event -/

theorem State.Holds.of_outputs_eq {s' : State} (h : s.Holds cmds) (heq : s'.outputs = s.outputs) :
    s'.Holds cmds := by
  obtain ⟨h1, h2, h3, h4⟩ := h
  constructor <;> rw [heq] <;> assumption

theorem State.holds_coldstart (s : State) : s.coldstart.Holds .none where
  analog := refines_atPowerOn 20
  binary := refines_atPowerOn 0
  multiState := refines_atPowerOn 1
  relinquishDefault := fun _ => rfl

theorem State.holds_powerOn (cfg : Config) (now : ℤ) : (State.powerOn cfg now).Holds .none where
  analog := refines_atPowerOn 20
  binary := refines_atPowerOn 0
  multiState := refines_atPowerOn 1
  relinquishDefault := fun _ => rfl

/-- Replacing one output's array by one of its own default keeps the defaults. -/
theorem State.Holds.relinquishDefault_setOutput (h : s.Holds cmds) (o : Output) {c : Commandable}
    (hc : c.relinquishDefault = (s.outputs o).relinquishDefault) (o' : Output) :
    ((s.setOutput o c).outputs o').relinquishDefault
      = (outputAtPowerOn o').relinquishDefault := by
  simp only [State.setOutput, Function.update_apply]
  split
  · rename_i heq
    rw [heq, hc]
    exact h.relinquishDefault o
  · exact h.relinquishDefault o'

theorem State.Holds.setAnalog (h : s.Holds cmds) {c : Commandable} {m : PriorityMap binary32.Value}
    (hc : Refines (·.convert binary64) (fun _ => True) c m)
    (hd : c.relinquishDefault = (s.outputs .analog).relinquishDefault) :
    (s.setOutput .analog c).Holds { cmds with analog := m } where
  analog := hc
  binary := h.binary
  multiState := h.multiState
  relinquishDefault := h.relinquishDefault_setOutput .analog hd

theorem State.Holds.setBinary (h : s.Holds cmds) {c : Commandable} {m : PriorityMap ℕ}
    (hc : Refines castDouble (· ≤ 1) c m)
    (hd : c.relinquishDefault = (s.outputs .binary).relinquishDefault) :
    (s.setOutput .binary c).Holds { cmds with binary := m } where
  analog := h.analog
  binary := hc
  multiState := h.multiState
  relinquishDefault := h.relinquishDefault_setOutput .binary hd

theorem State.Holds.setMultiState (h : s.Holds cmds) {c : Commandable} {m : PriorityMap ℕ}
    (hc : Refines castDouble (fun v => 1 ≤ v ∧ v ≤ 3) c m)
    (hd : c.relinquishDefault = (s.outputs .multiState).relinquishDefault) :
    (s.setOutput .multiState c).Holds { cmds with multiState := m } where
  analog := h.analog
  binary := h.binary
  multiState := hc
  relinquishDefault := h.relinquishDefault_setOutput .multiState hd

/-- **`SetPropertyReal` commands Analog Output 1**, whatever the value. -/
theorem State.Holds.setPropertyReal (h : s.Holds cmds) (p : PropertyReference)
    (value : binary32.Value) (priority : ℕ) :
    (Controller.setPropertyReal cfg p value priority s).2.Holds
      (cmds.take cfg (.setPropertyReal p value priority)) := by
  rw [Controller.setPropertyReal, Commands.take]
  by_cases hdev : p.deviceInstance = cfg.deviceInstance
  swap
  · rw [if_pos hdev, if_neg fun hp => hdev hp.1]
    exact h
  rw [if_neg (not_not.mpr hdev)]
  by_cases hout : p.names objectTypeAnalogOutput analogOutputInstance propertyIdentifierPresentValue
  · rw [if_pos hout, if_pos ⟨hdev, hout⟩]
    exact h.setAnalog (h.analog.commandWrite priority trivial) rfl
  have hnot : ¬ Output.analog.IsPresentValue cfg p := fun hp => hout hp.2
  rw [if_neg hout, if_neg hnot]
  split
  · cases s.createdAnalogValues.write p.objectInstance value with
    | none => exact h
    | some t => exact h.of_outputs_eq rfl
  · exact h

/-- **`SetPropertyEnumerated` commands Binary Output 1**, refusing what is not 0 or 1. -/
theorem State.Holds.setPropertyEnumerated (h : s.Holds cmds) (p : PropertyReference)
    (value priority : ℕ) :
    (Controller.setPropertyEnumerated cfg p value priority s).2.Holds
      (cmds.take cfg (.setPropertyEnumerated p value priority)) := by
  rw [Controller.setPropertyEnumerated, Commands.take]
  by_cases hdev : p.deviceInstance = cfg.deviceInstance
  swap
  · rw [if_pos hdev, if_neg fun hp => hdev hp.1.1]
    exact h
  rw [if_neg (not_not.mpr hdev)]
  by_cases hout : p.names objectTypeBinaryOutput binaryOutputInstance propertyIdentifierPresentValue
  swap
  · rw [if_neg hout, if_neg fun hp => hout hp.1.2]
    exact h
  rw [if_pos hout]
  split_ifs with hrange hval hval
  · exact absurd hval.2 (not_le.mpr hrange)
  · exact h
  · exact h.setBinary (h.binary.commandWrite priority hval.2) rfl
  · exact absurd ⟨⟨hdev, hout⟩, not_lt.mp hrange⟩ hval

/-- **`SetPropertyUnsignedInteger` commands Multi-State Output 1**, refusing what is no state. -/
theorem State.Holds.setPropertyUnsignedInteger (h : s.Holds cmds) (now : ℤ) (p : PropertyReference)
    (value priority : ℕ) :
    (Controller.setPropertyUnsignedInteger cfg now p value priority s).2.Holds
      (cmds.take cfg (.setPropertyUnsignedInteger now p value priority)) := by
  rw [Controller.setPropertyUnsignedInteger, Commands.take]
  by_cases hdev : p.deviceInstance = cfg.deviceInstance
  swap
  · rw [if_pos hdev, if_neg fun hp => hdev hp.1.1]
    exact h
  rw [if_neg (not_not.mpr hdev)]
  by_cases hout : p.names objectTypeMultiStateOutput multiStateOutputInstance
      propertyIdentifierPresentValue
  swap
  · have hnot : ¬ (Output.multiState.IsPresentValue cfg p ∧ 1 ≤ value ∧ value ≤ 3) :=
      fun hp => hout hp.1.2
    rw [if_neg hout, if_neg hnot]
    split
    · rw [setIvoryFileSize.eq_def]
      split
      · exact h
      · exact h.of_outputs_eq rfl
    · exact h
  rw [if_pos hout, multiStateOutputNumberOfStates]
  split_ifs with hrange hval hval
  · omega
  · exact h
  · exact h.setMultiState (h.multiState.commandWrite priority hval.2) rfl
  · exact absurd ⟨⟨hdev, hout⟩, by omega⟩ hval

/-- The object of an output is commandable as that output, and no other object is. -/
theorem getCommandable_eq_some {objectType objectInstance : ℕ} {o : Output} :
    getCommandable objectType objectInstance = some o
      ↔ objectType = o.objectType ∧ objectInstance = 1 := by
  rw [getCommandable]
  by_cases h1 : objectType = objectTypeAnalogOutput ∧ objectInstance = analogOutputInstance
  · rw [if_pos h1, h1.1, h1.2]
    cases o <;> decide
  rw [if_neg h1]
  by_cases h2 : objectType = objectTypeBinaryOutput ∧ objectInstance = binaryOutputInstance
  · rw [if_pos h2, h2.1, h2.2]
    cases o <;> decide
  rw [if_neg h2]
  by_cases h3 : objectType = objectTypeMultiStateOutput ∧ objectInstance = multiStateOutputInstance
  · rw [if_pos h3, h3.1, h3.2]
    cases o <;> decide
  rw [if_neg h3]
  cases o with
  | analog => exact iff_of_false nofun h1
  | binary => exact iff_of_false nofun h2
  | multiState => exact iff_of_false nofun h3

/-- **`SetPropertyNull` relinquishes** whichever output it names. -/
theorem State.Holds.setPropertyNull (h : s.Holds cmds) (p : PropertyReference) (priority : ℕ) :
    (Controller.setPropertyNull cfg p priority s).2.Holds
      (cmds.take cfg (.setPropertyNull p priority)) := by
  rw [Controller.setPropertyNull, Commands.take]
  by_cases hdev : p.deviceInstance = cfg.deviceInstance
  swap
  · rw [if_pos hdev, if_neg fun hp => hdev hp.1, if_neg fun hp => hdev hp.1,
      if_neg fun hp => hdev hp.1]
    exact h
  rw [if_neg (not_not.mpr hdev)]
  have hnames : ∀ o : Output, o.IsPresentValue cfg p ↔
      getCommandable p.objectType p.objectInstance = some o
        ∧ p.propertyIdentifier = propertyIdentifierPresentValue := fun o => by
    rw [getCommandable_eq_some, and_assoc]
    exact and_iff_right hdev
  simp only [hnames]
  cases hget : getCommandable p.objectType p.objectInstance with
  | none => simpa using h
  | some o =>
    by_cases hpv : p.propertyIdentifier = propertyIdentifierPresentValue
    swap
    · simpa [hpv] using h
    cases o with
    | analog => simpa [hpv] using h.setAnalog (h.analog.commandRelinquish priority) rfl
    | binary => simpa [hpv] using h.setBinary (h.binary.commandRelinquish priority) rfl
    | multiState =>
      simpa [hpv] using h.setMultiState (h.multiState.commandRelinquish priority) rfl

/-- **Every event is taken alike by the callbacks and by the maps.** -/
theorem State.Holds.step (h : s.Holds cmds) (e : OutputEvent) :
    (e.step cfg s).Holds (cmds.take cfg e) := by
  cases e with
  | setPropertyReal p value priority => exact h.setPropertyReal p value priority
  | setPropertyEnumerated p value priority => exact h.setPropertyEnumerated p value priority
  | setPropertyUnsignedInteger now p value priority =>
    exact h.setPropertyUnsignedInteger now p value priority
  | setPropertyNull p priority => exact h.setPropertyNull p priority
  | coldstart => exact s.holds_coldstart

/-! ## What the stack makes of a priority array -/

/-- The stack asks each slot, highest priority first, whether it is null, and takes the value of the
first that is not, else the Relinquish_Default. -/
def stackResolve {α : Type} (null : ℕ → Option Bool) (value : ℕ → Option α) (default : Option α) :
    Option α :=
  match PriorityMap.priorities.find? fun i => null i == some false with
  | some i => value i
  | none => default

/-- Analog Output 1's Present_Value. -/
def analogOutputPresentValue (cfg : Config) (s : State) : Option binary32.Value :=
  stackResolve (fun i => getPropertyBool cfg s (Output.analog.slotReference cfg i))
    (fun i => getPropertyReal cfg s (Output.analog.slotReference cfg i))
    (getPropertyReal cfg s (Output.analog.defaultReference cfg))

/-- Binary Output 1's Present_Value. -/
def binaryOutputPresentValue (cfg : Config) (s : State) : Option ℕ :=
  stackResolve (fun i => getPropertyBool cfg s (Output.binary.slotReference cfg i))
    (fun i => getPropertyEnumerated cfg s (Output.binary.slotReference cfg i))
    (getPropertyEnumerated cfg s (Output.binary.defaultReference cfg))

/-- Multi-State Output 1's Present_Value. -/
def multiStateOutputPresentValue (cfg : Config) (s : State) : Option ℕ :=
  stackResolve (fun i => getPropertyBool cfg s (Output.multiState.slotReference cfg i))
    (fun i => getPropertyUnsignedInteger cfg s (Output.multiState.slotReference cfg i))
    (getPropertyUnsignedInteger cfg s (Output.multiState.defaultReference cfg))

/-- **A stack that reads one map from both getters resolves it.** -/
theorem stackResolve_eq {α : Type} {null : ℕ → Option Bool} {value : ℕ → Option α}
    {m : PriorityMap α} {d : α} (hnull : ∀ i, 1 ≤ i → i ≤ 16 → null i = some (m i).isNone)
    (hvalue : ∀ i, 1 ≤ i → i ≤ 16 → value i = m i) :
    stackResolve null value (some d) = some (m.resolve d) := by
  have hmem : ∀ i ∈ PriorityMap.priorities, null i = some (m i).isNone ∧ value i = m i :=
    fun i hi => ⟨hnull i (PriorityMap.mem_priorities.mp hi).1 (PriorityMap.mem_priorities.mp hi).2,
      hvalue i (PriorityMap.mem_priorities.mp hi).1 (PriorityMap.mem_priorities.mp hi).2⟩
  rw [stackResolve, PriorityMap.resolve]
  revert hmem
  induction PriorityMap.priorities with
  | nil => exact fun _ => rfl
  | cons i l ih =>
    intro hmem
    obtain ⟨hn, hv⟩ := hmem i List.mem_cons_self
    rw [List.find?_cons, List.findSome?_cons, hn]
    cases hm : m i with
    | none => exact ih fun j hj => hmem j (List.mem_cons_of_mem _ hj)
    | some v => exact hv.trans hm

/-- **The Present_Value the stack resolves** is the outstanding command of the highest priority,
else the Relinquish_Default. -/
theorem State.Holds.presentValues (cfg : Config) (h : s.Holds cmds) :
    analogOutputPresentValue cfg s = some (cmds.analog.resolve (binary32.round 20))
      ∧ binaryOutputPresentValue cfg s = some (cmds.binary.resolve 0)
      ∧ multiStateOutputPresentValue cfg s = some (cmds.multiState.resolve 1) := by
  obtain ⟨hreal, henum, huint⟩ := h.default cfg
  refine ⟨?_, ?_, ?_⟩
  · rw [analogOutputPresentValue, hreal]
    exact stackResolve_eq (fun i h1 h16 => h.analog.getPropertyBool h1 h16)
      fun i h1 h16 => (h.slot cfg h1 h16).1
  · rw [binaryOutputPresentValue, henum]
    exact stackResolve_eq (fun i h1 h16 => h.binary.getPropertyBool h1 h16)
      fun i h1 h16 => (h.slot cfg h1 h16).2.1
  · rw [multiStateOutputPresentValue, huint]
    exact stackResolve_eq (fun i h1 h16 => h.multiState.getPropertyBool h1 h16)
      fun i h1 h16 => (h.slot cfg h1 h16).2.2

/-! ## Runs -/

/-- The property an event writes. -/
def OutputEvent.reference : OutputEvent → Option PropertyReference
  | .setPropertyReal p _ _ => some p
  | .setPropertyEnumerated p _ _ => some p
  | .setPropertyUnsignedInteger _ p _ _ => some p
  | .setPropertyNull p _ => some p
  | .coldstart => none

/-- An output whose Present_Value a write does not name keeps its array. -/
theorem OutputEvent.outputs_step (cfg : Config) (s : State) {e : OutputEvent}
    {p : PropertyReference} (hp : e.reference = some p) {o : Output}
    (ho : ¬ o.IsPresentValue cfg p) : (e.step cfg s).outputs o = s.outputs o := by
  have hkeep : ∀ (o' : Output) (c : Commandable), o'.IsPresentValue cfg p →
      (s.setOutput o' c).outputs o = s.outputs o := fun o' c ho' =>
    Function.update_of_ne (fun heq : o = o' => ho (heq ▸ ho')) _ _
  cases e with
  | setPropertyReal q value priority =>
    obtain rfl := Option.some.inj hp
    simp only [OutputEvent.step, Controller.setPropertyReal]
    split_ifs with h1 h2
    · rfl
    · exact hkeep .analog _ ⟨not_not.mp h1, h2⟩
    · cases s.createdAnalogValues.write q.objectInstance value <;> rfl
    · rfl
  | setPropertyEnumerated q value priority =>
    obtain rfl := Option.some.inj hp
    simp only [OutputEvent.step, Controller.setPropertyEnumerated]
    split_ifs with h1 h2
    · rfl
    · rfl
    · exact hkeep .binary _ ⟨not_not.mp h1, h2⟩
    · rfl
  | setPropertyUnsignedInteger now q value priority =>
    obtain rfl := Option.some.inj hp
    simp only [OutputEvent.step, Controller.setPropertyUnsignedInteger]
    split_ifs with h1 h2
    · rfl
    · rfl
    · exact hkeep .multiState _ ⟨not_not.mp h1, h2⟩
    · rw [setIvoryFileSize.eq_def]
      split <;> rfl
    · rfl
  | setPropertyNull q priority =>
    obtain rfl := Option.some.inj hp
    rw [OutputEvent.step, Controller.setPropertyNull]
    by_cases hdev : q.deviceInstance = cfg.deviceInstance
    swap
    · rw [if_pos hdev]
    rw [if_neg (not_not.mpr hdev)]
    cases hget : getCommandable q.objectType q.objectInstance with
    | none => rfl
    | some o' =>
      by_cases hpv : q.propertyIdentifier = propertyIdentifierPresentValue
      · obtain ⟨htype, hinst⟩ := getCommandable_eq_some.mp hget
        simpa [hpv] using hkeep o' _ ⟨hdev, htype, hinst, hpv⟩
      · simp [hpv]
  | coldstart => exact absurd hp nofun

/-- A write of a value to an output's Present_Value is accepted exactly when the value is one of the
output. -/
theorem accepted_iff (s : State) (p : PropertyReference) (value : binary32.Value) (n priority : ℕ)
    (now : ℤ) :
    (Output.analog.IsPresentValue cfg p →
        (setPropertyReal cfg p value priority s).1.accepted = true)
      ∧ (Output.binary.IsPresentValue cfg p →
        ((setPropertyEnumerated cfg p n priority s).1.accepted = true ↔ n ≤ 1))
      ∧ (Output.multiState.IsPresentValue cfg p →
        ((setPropertyUnsignedInteger cfg now p n priority s).1.accepted = true
          ↔ 1 ≤ n ∧ n ≤ 3)) := by
  refine ⟨fun ⟨hdev, hout⟩ => ?_, fun ⟨hdev, hout⟩ => ?_, fun ⟨hdev, hout⟩ => ?_⟩
  · have hout' : p.names objectTypeAnalogOutput analogOutputInstance
        propertyIdentifierPresentValue := hout
    rw [setPropertyReal, if_neg (not_not.mpr hdev), if_pos hout']
    rfl
  · have hout' : p.names objectTypeBinaryOutput binaryOutputInstance
        propertyIdentifierPresentValue := hout
    rw [setPropertyEnumerated, if_neg (not_not.mpr hdev), if_pos hout']
    split_ifs with hrange
    · exact iff_of_false (by simp) (not_le.mpr hrange)
    · exact iff_of_true rfl (not_lt.mp hrange)
  · have hout' : p.names objectTypeMultiStateOutput multiStateOutputInstance
        propertyIdentifierPresentValue := hout
    rw [setPropertyUnsignedInteger, if_neg (not_not.mpr hdev), if_pos hout',
      multiStateOutputNumberOfStates]
    split_ifs with hrange
    · exact iff_of_false (by simp) (by omega)
    · exact iff_of_true rfl (by omega)

/-- **The commandable outputs implement priority arrays.**  After any run of writes and
relinquishments and COLDSTARTs from power-on, of any property at any priority:

* the null query and the typed getter of every slot of the three outputs both read the maps that the
  accepted commands build;
* the Present_Value the stack resolves is the command of the highest priority, else the
  Relinquish_Default: 0 or 1 for the Binary Output and 1, 2 or 3 for the Multi-State Output;
* a value is accepted exactly when it is one of the output's, and no event changes an output whose
  Present_Value it does not name. -/
theorem outputs_are_priority_arrays (cfg : Config) (start : ℤ) (es : List OutputEvent) :
    let s := Runs.run (OutputEvent.step cfg) es (.powerOn cfg start)
    let cmds := Runs.run (Commands.take cfg) es .none
    (∀ i, 1 ≤ i → i ≤ 16 →
      (getPropertyBool cfg s (Output.analog.slotReference cfg i) = some (cmds.analog i).isNone
        ∧ getPropertyReal cfg s (Output.analog.slotReference cfg i) = cmds.analog i)
      ∧ (getPropertyBool cfg s (Output.binary.slotReference cfg i) = some (cmds.binary i).isNone
        ∧ getPropertyEnumerated cfg s (Output.binary.slotReference cfg i) = cmds.binary i)
      ∧ (getPropertyBool cfg s (Output.multiState.slotReference cfg i)
          = some (cmds.multiState i).isNone
        ∧ getPropertyUnsignedInteger cfg s (Output.multiState.slotReference cfg i)
          = cmds.multiState i))
    ∧ analogOutputPresentValue cfg s = some (cmds.analog.resolve (binary32.round 20))
    ∧ (binaryOutputPresentValue cfg s = some (cmds.binary.resolve 0) ∧ cmds.binary.resolve 0 ≤ 1)
    ∧ (multiStateOutputPresentValue cfg s = some (cmds.multiState.resolve 1)
      ∧ 1 ≤ cmds.multiState.resolve 1 ∧ cmds.multiState.resolve 1 ≤ 3)
    ∧ (∀ p value n priority now, (Output.analog.IsPresentValue cfg p →
        (setPropertyReal cfg p value priority s).1.accepted = true)
      ∧ (Output.binary.IsPresentValue cfg p →
        ((setPropertyEnumerated cfg p n priority s).1.accepted = true ↔ n ≤ 1))
      ∧ (Output.multiState.IsPresentValue cfg p →
        ((setPropertyUnsignedInteger cfg now p n priority s).1.accepted = true
          ↔ 1 ≤ n ∧ n ≤ 3)))
    ∧ ∀ (e : OutputEvent) p, e.reference = some p → ∀ o : Output, ¬ o.IsPresentValue cfg p →
        (e.step cfg s).outputs o = s.outputs o := by
  intro s cmds
  have h : s.Holds cmds := Runs.run_simulation
    (R := State.Holds) (fun s m e hs => State.Holds.step hs e) es (State.holds_powerOn cfg start)
  obtain ⟨hanalog, hbinary, hmultiState⟩ := h.presentValues cfg
  refine ⟨fun i h1 h16 => ?_, hanalog, ⟨hbinary, ?_⟩, ⟨hmultiState, ?_⟩,
    fun p value n priority now => accepted_iff s p value n priority now,
    fun e p hp o ho => OutputEvent.outputs_step cfg s hp ho⟩
  · obtain ⟨hreal, henum, huint⟩ := h.slot cfg h1 h16
    exact ⟨⟨h.analog.getPropertyBool h1 h16, hreal⟩, ⟨h.binary.getPropertyBool h1 h16, henum⟩,
      ⟨h.multiState.getPropertyBool h1 h16, huint⟩⟩
  · exact PriorityMap.resolve_mem (P := (· ≤ 1)) (by norm_num) h.binary.valid
  · exact PriorityMap.resolve_mem (P := fun v => 1 ≤ v ∧ v ≤ 3) (by norm_num) h.multiState.valid

end Controller
