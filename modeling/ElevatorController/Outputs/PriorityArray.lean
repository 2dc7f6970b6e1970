import ElevatorController.Machinery.PriorityMap
import ElevatorController.Model.MainLoop

/-!
# Outputs/PriorityArray — the commandable outputs are priority maps

    WriteProperty value @ p ──▸ command p value        NULL @ p ──▸ relinquish p

Each output holds its commands as `double`s in two arrays; the object's own type is what goes in and
comes out.  `Refines` relates such a `Commandable` to a `PriorityMap` of that type, through the cast
that encodes a command; the null query and the typed getter are then two readings of one map.
-/

namespace Controller

open BinaryFormat

/-! ## The casts lose nothing -/

theorem isFinite_natCast (F : BinaryFormat) {n : ℕ} (hmin : F.minExp ≤ 0)
    (hmax : (F.precision : ℤ) ≤ F.maxExp) (h : n < 2 ^ F.precision) : F.IsFinite n := by
  have habs : |((n : ℤ) : ℚ)| < 2 ^ F.precision := by
    rw [Int.cast_natCast, Nat.abs_cast]
    exact_mod_cast h
  refine ⟨⟨n, 0, by rw [Nat.abs_cast]; exact_mod_cast h, hmin, by simp⟩, ?_⟩
  rw [Int.cast_natCast] at habs
  refine habs.trans_le ?_
  rw [← zpow_natCast]
  exact zpow_le_zpow_right₀ one_le_two hmax

theorem castUnsigned_castDouble {n : ℕ} (h : n < 2 ^ 53) : castUnsigned (castDouble n) = n := by
  rw [castDouble, round_of_isFinite (isFinite_natCast binary64 (by decide) (by decide) h),
    castUnsigned]
  simp

theorem convert_round_natCast {n : ℕ} (h : n < 2 ^ 24) :
    (binary64.round n).convert binary32 = binary32.round n := by
  have h64 : n < 2 ^ 53 := h.trans (by norm_num)
  rw [round_of_isFinite (isFinite_natCast binary64 (by decide) (by decide) h64)]
  rfl

/-! ## One output -/

variable {α : Type} {encode : α → binary64.Value} {cast : binary64.Value → α} {valid : α → Prop}
  {c : Commandable} {m : PriorityMap α}

/-- A priority array holds exactly a map's commands, encoded. -/
structure Refines (encode : α → binary64.Value) (valid : α → Prop) (c : Commandable)
    (m : PriorityMap α) : Prop where
  isSet : ∀ i : Fin 16, c.isSet i = (m (i + 1)).isSome
  value : ∀ (i : Fin 16) (v : α), m (i + 1) = some v → c.value i = encode v
  valid : ∀ (i : ℕ) (v : α), m i = some v → valid v

theorem effectivePriority_val (n : ℕ) : (effectivePriority n : ℕ) + 1 = PriorityMap.priority n := by
  by_cases h : 1 ≤ n ∧ n ≤ bacnetPriorityArraySize
  · have h16 : 1 ≤ n ∧ n ≤ 16 := h
    rw [effectivePriority, dif_pos h, PriorityMap.priority, if_pos h16]
    exact Nat.sub_add_cancel h.1
  · have h16 : ¬ (1 ≤ n ∧ n ≤ 16) := h
    rw [effectivePriority, dif_neg h, PriorityMap.priority, if_neg h16]
    rfl

/-- A slot is the one of a priority exactly when their numbers agree. -/
theorem eq_effectivePriority_iff {i : Fin 16} {n : ℕ} :
    i = effectivePriority n ↔ (i : ℕ) + 1 = PriorityMap.priority n := by
  rw [← effectivePriority_val, Fin.ext_iff]
  omega

theorem refines_atPowerOn (d : ℚ) :
    Refines encode valid (.atPowerOn d) (PriorityMap.empty : PriorityMap α) where
  isSet := fun _ => rfl
  value := nofun
  valid := nofun

/-- **`CommandWrite` commands.** -/
theorem Refines.commandWrite (h : Refines encode valid c m) (priority : ℕ) {v : α} (hv : valid v) :
    Refines encode valid (c.commandWrite priority (encode v)) (m.command priority v) where
  isSet := fun i => by
    simp only [Commandable.commandWrite, PriorityMap.command, Function.update_apply,
      eq_effectivePriority_iff]
    split
    · rfl
    · exact h.isSet i
  value := fun i w hw => by
    simp only [Commandable.commandWrite, PriorityMap.command, Function.update_apply,
      eq_effectivePriority_iff] at hw ⊢
    split_ifs at hw ⊢ with hi
    · rw [Option.some.inj hw]
    · exact h.value i w hw
  valid := fun i w hw => by
    rw [PriorityMap.command, Function.update_apply] at hw
    split at hw
    · exact Option.some.inj hw ▸ hv
    · exact h.valid i w hw

/-- **`CommandRelinquish` relinquishes.** -/
theorem Refines.commandRelinquish (h : Refines encode valid c m) (priority : ℕ) :
    Refines encode valid (c.commandRelinquish priority) (m.relinquish priority) where
  isSet := fun i => by
    simp only [Commandable.commandRelinquish, PriorityMap.relinquish, Function.update_apply,
      eq_effectivePriority_iff]
    split
    · rfl
    · exact h.isSet i
  value := fun i w hw => by
    simp only [PriorityMap.relinquish, Function.update_apply] at hw
    split at hw
    · exact absurd hw nofun
    · exact h.value i w hw
  valid := fun i w hw => by
    rw [PriorityMap.relinquish, Function.update_apply] at hw
    split at hw
    · exact absurd hw nofun
    · exact h.valid i w hw

/-- A read of slot `i` finds the map's command there. -/
theorem Refines.readPrioritySlot (h : Refines encode valid c m) {i : ℕ} (h1 : 1 ≤ i)
    (h16 : i ≤ 16) :
    ∃ value, c.readPrioritySlot propertyIdentifierPriorityArray (some i)
      = some ((m i).isSome, value) ∧ ∀ v, m i = some v → value = encode v := by
  have hlt : i - 1 < 16 := by omega
  have hi : (i - 1) + 1 = i := by omega
  have hset := h.isSet ⟨i - 1, hlt⟩
  have hvalue := h.value ⟨i - 1, hlt⟩
  simp only [hi] at hset hvalue
  refine ⟨c.value ⟨i - 1, hlt⟩, ?_, hvalue⟩
  have hrange : ¬ (propertyIdentifierPriorityArray ≠ propertyIdentifierPriorityArray ∨ i < 1
      ∨ i > bacnetPriorityArraySize) := by
    rw [bacnetPriorityArraySize]
    omega
  rw [Commandable.readPrioritySlot, dif_neg hrange]
  simp only [hset]

/-- **The typed getter serves a slot's command, and declines a null slot.** -/
theorem Refines.serve_slot (h : Refines encode valid c m)
    (hcast : ∀ v, valid v → cast (encode v) = v)
    {p : PropertyReference} {i : ℕ} (h1 : 1 ≤ i) (h16 : i ≤ 16)
    (hp : p.propertyIdentifier = propertyIdentifierPriorityArray)
    (hi : p.propertyArrayIndex = some i) : c.serve cast p = some (m i) := by
  obtain ⟨value, hread, hvalue⟩ := h.readPrioritySlot h1 h16
  rw [Commandable.serve, hp, hi, hread]
  cases hm : m i with
  | none => rfl
  | some v =>
    rw [hvalue v hm]
    simp only [Option.isSome_some, if_true]
    rw [hcast v (h.valid i v hm)]

/-- …and the Relinquish_Default is served as it is. -/
theorem Commandable.serve_relinquishDefault {p : PropertyReference}
    (hp : p.propertyIdentifier = propertyIdentifierRelinquishDefault) :
    c.serve cast p = some (some (cast c.relinquishDefault)) := by
  have hread : c.readPrioritySlot p.propertyIdentifier p.propertyArrayIndex = none := by
    rw [Commandable.readPrioritySlot.eq_def, hp]
    split
    · rfl
    · exact dif_pos (Or.inl (by decide))
  rw [Commandable.serve, hread]
  exact if_pos hp

/-! ## The three outputs -/

/-- The object type of an output. -/
def Output.objectType : Output → ℕ
  | .analog => objectTypeAnalogOutput
  | .binary => objectTypeBinaryOutput
  | .multiState => objectTypeMultiStateOutput

/-- Element `i` of an output's Priority_Array. -/
def Output.slotReference (cfg : Config) (o : Output) (i : ℕ) : PropertyReference :=
  ⟨cfg.deviceInstance, o.objectType, 1, propertyIdentifierPriorityArray, some i⟩

/-- An output's Relinquish_Default. -/
def Output.defaultReference (cfg : Config) (o : Output) : PropertyReference :=
  ⟨cfg.deviceInstance, o.objectType, 1, propertyIdentifierRelinquishDefault, none⟩

/-- The commands outstanding at the three outputs, in their own types. -/
structure Commands where
  analog : PriorityMap binary32.Value
  binary : PriorityMap ℕ
  multiState : PriorityMap ℕ

/-- No command anywhere. -/
def Commands.none : Commands := ⟨.empty, .empty, .empty⟩

/-- **The three priority arrays hold exactly the outstanding commands**, over their power-on
Relinquish_Defaults. -/
structure State.Holds (s : State) (m : Commands) : Prop where
  analog : Refines (·.convert binary64) (fun _ => True) (s.outputs .analog) m.analog
  binary : Refines castDouble (· ≤ 1) (s.outputs .binary) m.binary
  multiState : Refines castDouble (fun v => 1 ≤ v ∧ v ≤ 3) (s.outputs .multiState) m.multiState
  relinquishDefault : ∀ o,
    (s.outputs o).relinquishDefault = (outputAtPowerOn o).relinquishDefault

variable {cfg : Config} {s : State} {cmds : Commands}

/-! ## What the getters serve of an output -/

theorem getPropertyBool_of_slot {p : PropertyReference} {slotIsSet : Bool} {value : binary64.Value}
    (hdev : p.deviceInstance = cfg.deviceInstance)
    (h : ((getCommandable p.objectType p.objectInstance).bind fun o =>
      (s.outputs o).readPrioritySlot p.propertyIdentifier p.propertyArrayIndex)
        = some (slotIsSet, value)) : getPropertyBool cfg s p = some !slotIsSet := by
  rw [getPropertyBool, if_neg (not_not.mpr hdev), h]

theorem getPropertyReal_of_served {p : PropertyReference} {answer : Option binary32.Value}
    (hdev : p.deviceInstance = cfg.deviceInstance) (htype : p.objectType = objectTypeAnalogOutput)
    (h : s.serveOutput (·.convert binary32) objectTypeAnalogOutput p = some answer) :
    getPropertyReal cfg s p = answer := by
  have hne : p.objectType ≠ objectTypeAnalogInput := by rw [htype]; decide
  rw [getPropertyReal, if_neg (not_not.mpr hdev), if_neg fun hp => hne hp.1,
    if_neg fun hp => hne hp.1, h]

theorem getPropertyEnumerated_of_served {p : PropertyReference} {answer : Option ℕ}
    (hdev : p.deviceInstance = cfg.deviceInstance) (htype : p.objectType = objectTypeBinaryOutput)
    (h : s.serveOutput castUnsigned objectTypeBinaryOutput p = some answer) :
    getPropertyEnumerated cfg s p = answer := by
  have hne : p.objectType ≠ objectTypeBinaryInput := by rw [htype]; decide
  rw [getPropertyEnumerated, if_neg (not_not.mpr hdev), if_neg fun hp => hne hp.1,
    if_neg fun hp => hne hp.1, h]

theorem getPropertyUnsignedInteger_of_served {p : PropertyReference} {answer : Option ℕ}
    (hdev : p.deviceInstance = cfg.deviceInstance)
    (htype : p.objectType = objectTypeMultiStateOutput)
    (h : s.serveOutput castUnsigned objectTypeMultiStateOutput p = some answer) :
    getPropertyUnsignedInteger cfg s p = answer := by
  have hne : ∀ t, t ≠ objectTypeMultiStateOutput → p.objectType ≠ t := fun t ht heq =>
    ht (heq ▸ htype)
  have hmsi := hne objectTypeMultiStateInput (by decide)
  have hdevice := hne objectTypeDevice (by decide)
  have hport := hne objectTypeNetworkPort (by decide)
  have hlift := hne objectTypeLift (by decide)
  have hpiv := hne objectTypePositiveIntegerValue (by decide)
  rw [getPropertyUnsignedInteger, if_neg (not_not.mpr hdev), if_neg fun hp => hmsi hp.1,
    if_neg fun hp => hmsi hp.1, if_neg fun hp => hmsi hp.1.1, if_neg fun hp => hdevice hp.1,
    if_neg fun hp => hport hp.1, if_neg fun hp => hport hp.1, if_neg fun hp => hport hp.1,
    if_neg fun hp => hlift hp.1, if_neg fun hp => hlift hp.1, if_neg fun hp => hpiv hp.1, h]

/-- The null query of an output's slot. -/
theorem Refines.getPropertyBool {o : Output} (h : Refines encode valid (s.outputs o) m) {i : ℕ}
    (h1 : 1 ≤ i) (h16 : i ≤ 16) :
    Controller.getPropertyBool cfg s (o.slotReference cfg i) = some (m i).isNone := by
  obtain ⟨value, hread, -⟩ := h.readPrioritySlot h1 h16
  have hslot := getPropertyBool_of_slot (s := s) (p := o.slotReference cfg i) rfl
    (by cases o <;> exact hread)
  rw [hslot]
  cases m i <;> rfl

/-- **The null query and the typed getter of every slot read one map.** -/
theorem State.Holds.slot (cfg : Config) (h : s.Holds cmds) {i : ℕ} (h1 : 1 ≤ i) (h16 : i ≤ 16) :
    getPropertyReal cfg s (Output.analog.slotReference cfg i) = cmds.analog i
      ∧ getPropertyEnumerated cfg s (Output.binary.slotReference cfg i) = cmds.binary i
      ∧ getPropertyUnsignedInteger cfg s (Output.multiState.slotReference cfg i)
        = cmds.multiState i := by
  refine ⟨getPropertyReal_of_served rfl rfl ?_, getPropertyEnumerated_of_served rfl rfl ?_,
    getPropertyUnsignedInteger_of_served rfl rfl ?_⟩
  · exact h.analog.serve_slot (fun v _ => widens_binary32_binary64.convert_convert v) h1 h16 rfl rfl
  · exact h.binary.serve_slot
      (fun v hv => castUnsigned_castDouble (lt_of_le_of_lt hv (by norm_num))) h1 h16 rfl rfl
  · exact h.multiState.serve_slot
      (fun v hv => castUnsigned_castDouble (lt_of_le_of_lt hv.2 (by norm_num))) h1 h16 rfl rfl

/-- The Relinquish_Defaults are those of power-on. -/
theorem State.Holds.default (cfg : Config) (h : s.Holds cmds) :
    getPropertyReal cfg s (Output.analog.defaultReference cfg) = some (binary32.round 20)
      ∧ getPropertyEnumerated cfg s (Output.binary.defaultReference cfg) = some 0
      ∧ getPropertyUnsignedInteger cfg s (Output.multiState.defaultReference cfg) = some 1 := by
  refine ⟨getPropertyReal_of_served rfl rfl ?_, getPropertyEnumerated_of_served rfl rfl ?_,
    getPropertyUnsignedInteger_of_served rfl rfl ?_⟩
  · refine (Commandable.serve_relinquishDefault
      (p := Output.analog.defaultReference cfg) rfl).trans ?_
    rw [h.relinquishDefault]
    exact congrArg (some ∘ some) (by exact_mod_cast convert_round_natCast (n := 20) (by norm_num))
  · refine (Commandable.serve_relinquishDefault
      (p := Output.binary.defaultReference cfg) rfl).trans ?_
    rw [h.relinquishDefault]
    exact congrArg (some ∘ some)
      (by exact_mod_cast castUnsigned_castDouble (n := 0) (by norm_num))
  · refine (Commandable.serve_relinquishDefault
      (p := Output.multiState.defaultReference cfg) rfl).trans ?_
    rw [h.relinquishDefault]
    exact congrArg (some ∘ some)
      (by exact_mod_cast castUnsigned_castDouble (n := 1) (by norm_num))

end Controller
