import ElevatorController.Model.Image

/-!
# Values/Table — the table of created Analog Values as a partial map

    slots in use  ──valueOf──▸  instance ↦ Present_Value

`Represents t m` says that no two slots in use share an instance and that `m` is what the table
holds.  Creating, deleting and writing are then an insertion, a deletion and an overwrite in `m`.
-/

namespace Controller

open BinaryFormat

/-- The created Analog Values as what they are: instances that have a Present_Value. -/
abbrev ValueMap : Type := ℕ → Option binary32.Value

namespace CreatedAnalogValues

/-- No two slots in use hold the same instance. -/
abbrev Distinct (t : CreatedAnalogValues) : Prop :=
  SlotTable.Distinct CreatedAnalogValue.inUse CreatedAnalogValue.objectInstance t

/-- The instances in use. -/
abbrev instances (t : CreatedAnalogValues) : Finset ℕ :=
  SlotTable.keys CreatedAnalogValue.inUse CreatedAnalogValue.objectInstance t

/-- The Present_Value of a tracked instance. -/
def valueOf (t : CreatedAnalogValues) : ValueMap := fun n =>
  (t.findCreated n).map fun slot => (t slot).presentValue

/-- The table holds the map. -/
structure Represents (t : CreatedAnalogValues) (m : ValueMap) : Prop where
  distinct : t.Distinct
  valueOf_eq : t.valueOf = m

variable {t t' : CreatedAnalogValues} {m : ValueMap} {n : ℕ} {v : binary32.Value}
  {slot : Fin maxCreatedAnalogValues}

theorem valueOf_eq_lookup (t : CreatedAnalogValues) (n : ℕ) : t.valueOf n =
    (SlotTable.lookup CreatedAnalogValue.inUse CreatedAnalogValue.objectInstance t n).map
      CreatedAnalogValue.presentValue := by
  rw [valueOf, SlotTable.lookup, Option.map_map]
  rfl

theorem represents_atPowerOn : atPowerOn.Represents fun _ => none where
  distinct := fun _ _ hi => absurd hi (by simp [atPowerOn])
  valueOf_eq := funext fun n => by
    have hnone : atPowerOn.findCreated n = none :=
      SlotTable.find_eq_none_iff.mpr fun i hi => absurd hi (by simp [atPowerOn])
    rw [valueOf, hnone]
    rfl

/-- A table with distinct instances represents what it holds. -/
theorem Distinct.represents (h : t.Distinct) : t.Represents t.valueOf := ⟨h, rfl⟩

theorem Represents.findCreated_eq_none_iff (h : t.Represents m) :
    t.findCreated n = none ↔ m n = none := by
  rw [← h.valueOf_eq, valueOf, Option.map_eq_none_iff]

theorem Represents.findCreated_eq_some (h : t.Represents m) (hf : t.findCreated n = some slot) :
    m n = some (t slot).presentValue := by
  rw [← h.valueOf_eq, valueOf, hf]
  rfl

theorem Represents.mem_instances (h : t.Represents m) : n ∈ t.instances ↔ (m n).isSome := by
  rw [← h.valueOf_eq, valueOf_eq_lookup, Option.isSome_map, SlotTable.isSome_lookup_iff]

/-! ## One store -/

theorem setPresentValue_of_findCreated (hf : t.findCreated n = some slot) (v : binary32.Value) :
    t.setPresentValue slot v = Function.update t slot ⟨true, n, v⟩ := by
  obtain ⟨huse, hkey⟩ := SlotTable.find_eq_some hf
  simp only [setPresentValue, huse, hkey]

theorem claim_setPresentValue (t : CreatedAnalogValues) (slot : Fin maxCreatedAnalogValues) (n : ℕ)
    (v : binary32.Value) :
    (t.claim slot n).setPresentValue slot v = Function.update t slot ⟨true, n, v⟩ := by
  simp [claim, setPresentValue]

/-- **A store under an instance no other slot holds is an insertion or an overwrite.** -/
theorem Represents.store (h : t.Represents m)
    (hold : (t slot).inUse = true → (t slot).objectInstance = n)
    (hfresh : ∀ j, j ≠ slot → (t j).inUse = true → (t j).objectInstance ≠ n) :
    Represents (Function.update t slot ⟨true, n, v⟩) (Function.update m n (some v)) where
  distinct := SlotTable.distinct_update h.distinct fun j hj hi _ => hfresh j hj hi
  valueOf_eq := funext fun k => by
    rw [valueOf_eq_lookup, SlotTable.lookup_update h.distinct rfl hold hfresh,
      Function.update_apply]
    split
    · rfl
    · rw [← valueOf_eq_lookup, h.valueOf_eq]

/-- …as when the slot is the instance's own. -/
theorem Represents.overwrite (h : t.Represents m) (hf : t.findCreated n = some slot) :
    (t.setPresentValue slot v).Represents (Function.update m n (some v)) := by
  obtain ⟨huse, hkey⟩ := SlotTable.find_eq_some hf
  rw [setPresentValue_of_findCreated hf]
  exact h.store (fun _ => hkey) fun j hj hi heq =>
    hj (h.distinct j slot hi huse (heq.trans hkey.symm))

/-- …or free, and the instance not tracked. -/
theorem Represents.add (h : t.Represents m) (hf : t.findCreated n = none)
    (hfree : t.findFree = some slot) :
    ((t.claim slot n).setPresentValue slot v).Represents (Function.update m n (some v)) := by
  have hslot : (t slot).inUse = false := SlotTable.free_eq_some hfree
  rw [claim_setPresentValue]
  exact h.store (fun huse => absurd huse (by simp [hslot]))
    fun j _ hi => SlotTable.find_eq_none_iff.mp hf j hi

/-! ## Create, delete, write -/

/-- A create is refused when the instance is tracked or every slot is in use. -/
theorem Represents.create_eq_none_iff (h : t.Represents m) :
    t.create n = none ↔ (m n).isSome ∨ t.findFree = none := by
  rw [create.eq_def]
  cases hf : t.findCreated n with
  | some slot => simp [h.findCreated_eq_some hf]
  | none =>
    rw [h.findCreated_eq_none_iff.mp hf]
    cases t.findFree <;> simp

theorem Represents.create (h : t.Represents m) (hc : t.create n = some t') :
    m n = none ∧ t'.Represents (Function.update m n (some (binary32.round 0))) := by
  rw [CreatedAnalogValues.create.eq_def] at hc
  cases hf : t.findCreated n with
  | some slot => simp [hf] at hc
  | none =>
    cases hfree : t.findFree with
    | none => simp [hf, hfree] at hc
    | some slot =>
      simp only [hf, hfree] at hc
      obtain rfl := Option.some.inj hc
      exact ⟨h.findCreated_eq_none_iff.mp hf, h.add hf hfree⟩

/-- A delete is refused when the instance is not tracked. -/
theorem Represents.delete_eq_none_iff (h : t.Represents m) : t.delete n = none ↔ m n = none := by
  rw [delete.eq_def, ← h.findCreated_eq_none_iff]
  cases t.findCreated n <;> simp

theorem Represents.delete (h : t.Represents m) (hd : t.delete n = some t') :
    (m n).isSome ∧ t'.Represents (Function.update m n none) := by
  rw [CreatedAnalogValues.delete.eq_def] at hd
  cases hf : t.findCreated n with
  | none => simp [hf] at hd
  | some slot =>
    simp only [hf] at hd
    obtain rfl := Option.some.inj hd
    obtain ⟨huse, hkey⟩ := SlotTable.find_eq_some hf
    refine ⟨by simp [h.findCreated_eq_some hf], ?_, funext fun k => ?_⟩
    · exact SlotTable.distinct_update h.distinct fun _ _ _ huse' => absurd huse' (by simp)
    · rw [valueOf_eq_lookup, release, SlotTable.lookup_update_of_not_inUse h.distinct huse rfl,
        hkey, Function.update_apply]
      split
      · rfl
      · rw [← valueOf_eq_lookup, h.valueOf_eq]

theorem Represents.write (h : t.Represents m) (hw : t.write n v = some t') :
    (m n).isSome ∧ t'.Represents (Function.update m n (some v)) := by
  rw [CreatedAnalogValues.write.eq_def] at hw
  cases hf : t.findCreated n with
  | none => simp [hf] at hw
  | some slot =>
    simp only [hf] at hw
    obtain rfl := Option.some.inj hw
    exact ⟨by simp [h.findCreated_eq_some hf], h.overwrite hf⟩

theorem Represents.write_eq_none_iff (h : t.Represents m) : t.write n v = none ↔ m n = none := by
  rw [CreatedAnalogValues.write.eq_def, ← h.findCreated_eq_none_iff]
  cases t.findCreated n <;> simp

end CreatedAnalogValues

end Controller
