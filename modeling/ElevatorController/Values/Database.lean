import ElevatorController.Values.Restore
import ElevatorController.Device.Frame

/-!
# Values/Database — the table and the stack's object database stay in step

The stack keeps its own set of created objects.  It asks before it creates or deletes one, tells
the application when it takes a creation back, and is told by the application what a restore adds
and removes.  `System` runs the two stores together; `Database` is what they both are: a set of
objects, each with the value last written or restored to it.

    System.step  ──Agrees──  Database.step
-/

namespace Controller

open BinaryFormat

/-- What reaches the created Analog Values. -/
inductive DatabaseEvent where
  | create (objectInstance : ℕ)
  /-- The stack could not finish an object it created, and takes it back. -/
  | rollback (objectInstance : ℕ)
  | delete (objectInstance : ℕ)
  | write (p : PropertyReference) (value : binary32.Value) (priority : ℕ)
  /-- A staged list is applied, each missing object added if the stack can. -/
  | restore (restored : RestoredAnalogValues) (addObject : ℕ → Bool)

/-! ## The two stores -/

/-- The application, and the created Analog Values in the stack's object database. -/
structure System where
  state : State
  objects : Finset ℕ

/-- One event, in the application and in the stack. -/
def System.step (cfg : Config) (x : System) : DatabaseEvent → System
  | .create n =>
    if n ∈ x.objects then x
    else
      let r := createObject cfg cfg.deviceInstance objectTypeAnalogValue n x.state
      ⟨r.2, if r.1.accepted then insert n x.objects else x.objects⟩
  | .rollback n =>
    if n ∈ x.objects then
      ⟨(deleteObject cfg cfg.deviceInstance objectTypeAnalogValue n x.state).2, x.objects.erase n⟩
    else x
  | .delete n =>
    if n ∈ x.objects then
      let r := deleteObject cfg cfg.deviceInstance objectTypeAnalogValue n x.state
      ⟨r.2, if r.1.accepted then x.objects.erase n else x.objects⟩
    else x
  | .write p value priority => ⟨(setPropertyReal cfg p value priority x.state).2, x.objects⟩
  | .restore restored addObject =>
    let applied := applyRestoredConfiguration addObject restored x.state.createdAnalogValues
    ⟨{ x.state with createdAnalogValues := applied.1 },
      Runs.run StackCall.onObjects applied.2 x.objects⟩

/-! ## What they are -/

/-- A set of objects, and the value each of them last took. -/
structure Database where
  objects : Finset ℕ
  value : ℕ → binary32.Value

namespace Database

/-- The object takes a value; it is created if it is not there. -/
def put (d : Database) (n : ℕ) (v : binary32.Value) : Database :=
  ⟨insert n d.objects, Function.update d.value n v⟩

/-- The object goes. -/
def erase (d : Database) (n : ℕ) : Database := { d with objects := d.objects.erase n }

/-- One restored value. -/
def restoreEntry (addObject : ℕ → Bool) (d : Database) (r : RestoredAnalogValue × ℕ) : Database :=
  if r.1.objectInstance ∈ d.objects ∨ addObject r.2 = true then
    d.put r.1.objectInstance r.1.presentValue
  else d

/-- One event: a creation starts the value at 0.0, unless there are eight objects already. -/
def step (cfg : Config) (d : Database) : DatabaseEvent → Database
  | .create n =>
    if n ∈ d.objects ∨ maxCreatedAnalogValues ≤ d.objects.card then d
    else d.put n (binary32.round 0)
  | .rollback n => d.erase n
  | .delete n => d.erase n
  | .write p value _ =>
    if p.deviceInstance = cfg.deviceInstance ∧ p.objectType = objectTypeAnalogValue
        ∧ p.propertyIdentifier = propertyIdentifierPresentValue ∧ p.objectInstance ∈ d.objects then
      d.put p.objectInstance value
    else d
  | .restore restored addObject =>
    restored.toList.zipIdx.foldl (restoreEntry addObject)
      { d with objects := d.objects ∩ restoredInstances restored.toList }

/-- The database as a partial map. -/
def toMap (d : Database) : ValueMap := fun n => if n ∈ d.objects then some (d.value n) else none

variable (d : Database) (n : ℕ)

theorem toMap_eq_none_iff {d : Database} {n : ℕ} : d.toMap n = none ↔ n ∉ d.objects := by
  simp [toMap]

theorem isSome_toMap_iff {d : Database} {n : ℕ} : (d.toMap n).isSome ↔ n ∈ d.objects := by
  rw [toMap]
  split <;> simp_all

theorem toMap_put (v : binary32.Value) :
    (d.put n v).toMap = Function.update d.toMap n (some v) := by
  funext k
  rw [Function.update_apply, toMap, toMap, put]
  by_cases hk : k = n <;> simp [hk]

theorem toMap_erase : (d.erase n).toMap = Function.update d.toMap n none := by
  funext k
  rw [Function.update_apply, toMap, toMap, erase]
  by_cases hk : k = n <;> simp [hk]

theorem toMap_restoreEntry (addObject : ℕ → Bool) (r : RestoredAnalogValue × ℕ) :
    (restoreEntry addObject d r).toMap = Controller.restoreEntry addObject d.toMap r := by
  simp only [restoreEntry, Controller.restoreEntry, isSome_toMap_iff]
  split
  · exact d.toMap_put _ _
  · rfl

theorem toMap_foldl_restoreEntry (addObject : ℕ → Bool) : ∀ (l : List (RestoredAnalogValue × ℕ))
    (d : Database), (l.foldl (restoreEntry addObject) d).toMap
      = l.foldl (Controller.restoreEntry addObject) d.toMap
  | [], _ => rfl
  | r :: l, d => by
    rw [List.foldl_cons, List.foldl_cons, toMap_foldl_restoreEntry addObject l,
      toMap_restoreEntry]

theorem toMap_restrict (vs : List RestoredAnalogValue) :
    toMap { d with objects := d.objects ∩ restoredInstances vs } = keepInstances vs d.toMap := by
  funext k
  simp only [toMap, keepInstances, restoredInstances, Finset.mem_inter, List.mem_toFinset,
    List.any_eq_true, beq_iff_eq, List.mem_map]
  split_ifs <;> simp_all

end Database

/-! ## They agree -/

/-- The stack's objects are the database's, and the table holds their values. -/
structure Agrees (x : System) (d : Database) : Prop where
  objects : x.objects = d.objects
  represents : x.state.createdAnalogValues.Represents d.toMap

variable {cfg : Config} {x : System} {d : Database}

theorem Agrees.instances_eq (h : Agrees x d) :
    x.state.createdAnalogValues.instances = x.objects := by
  ext n
  rw [h.represents.mem_instances, h.objects, Database.isSome_toMap_iff]

theorem Agrees.card_le (h : Agrees x d) : x.objects.card ≤ maxCreatedAnalogValues := by
  rw [← h.instances_eq]
  exact SlotTable.card_keys_le _

/-- A slot is free as long as there are fewer than eight objects. -/
theorem Agrees.findFree_eq_none_iff (h : Agrees x d) :
    x.state.createdAnalogValues.findFree = none ↔ maxCreatedAnalogValues ≤ x.objects.card := by
  rw [← h.instances_eq]
  constructor
  · intro hfull
    exact (SlotTable.card_keys_of_full h.represents.distinct
      (SlotTable.free_eq_none_iff.mp hfull)).ge
  · intro hcard
    cases hfree : x.state.createdAnalogValues.findFree with
    | none => rfl
    | some slot => exact absurd hcard (not_le.mpr (SlotTable.card_keys_lt_of_free hfree))

/-- A create is accepted exactly for an object that is not there, while there are fewer than
eight. -/
theorem Agrees.create_accepted_iff (h : Agrees x d) (cfg : Config) (n : ℕ) :
    (createObject cfg cfg.deviceInstance objectTypeAnalogValue n x.state).1.accepted = true
      ↔ n ∉ x.objects ∧ x.objects.card < maxCreatedAnalogValues := by
  have hnone := h.represents.create_eq_none_iff (n := n)
  rw [Database.isSome_toMap_iff, ← h.objects, h.findFree_eq_none_iff] at hnone
  rw [createObject.eq_def, if_neg (not_not.mpr rfl), if_neg (not_not.mpr rfl), ← not_le,
    ← not_or, ← hnone]
  cases x.state.createdAnalogValues.create n <;> simp

/-- A delete is accepted exactly for an object that is there. -/
theorem Agrees.delete_accepted_iff (h : Agrees x d) (cfg : Config) (n : ℕ) :
    (deleteObject cfg cfg.deviceInstance objectTypeAnalogValue n x.state).1.accepted = true
      ↔ n ∈ x.objects := by
  have hnone := h.represents.delete_eq_none_iff (n := n)
  rw [Database.toMap_eq_none_iff, ← h.objects] at hnone
  rw [deleteObject.eq_def, if_neg (not_not.mpr rfl), if_neg (not_not.mpr rfl), ← not_iff_not,
    ← hnone]
  cases x.state.createdAnalogValues.delete n <;> simp

theorem Agrees.create (h : Agrees x d) (n : ℕ) :
    Agrees (x.step cfg (.create n)) (d.step cfg (.create n)) := by
  have haccept := h.create_accepted_iff cfg n
  rw [System.step, Database.step, ← h.objects]
  by_cases hn : n ∈ x.objects
  · rw [if_pos hn, if_pos (Or.inl hn)]
    exact h
  rw [if_neg hn, createObject.eq_def, if_neg (not_not.mpr rfl), if_neg (not_not.mpr rfl)] at *
  cases hcreate : x.state.createdAnalogValues.create n with
  | none =>
    have hfull : ¬ x.objects.card < maxCreatedAnalogValues := by simpa [hcreate, hn] using haccept
    rw [if_pos (Or.inr (not_lt.mp hfull))]
    exact h
  | some t =>
    have hroom : x.objects.card < maxCreatedAnalogValues := by simpa [hcreate, hn] using haccept
    rw [if_neg (not_or.mpr ⟨hn, not_le.mpr hroom⟩)]
    refine ⟨congrArg (insert n) h.objects, ?_⟩
    rw [Database.toMap_put]
    exact (h.represents.create hcreate).2

theorem Agrees.erase (h : Agrees x d) {n : ℕ} {t : CreatedAnalogValues}
    (hdelete : x.state.createdAnalogValues.delete n = some t) :
    Agrees ⟨{ x.state with createdAnalogValues := t }, x.objects.erase n⟩ (d.erase n) where
  objects := congrArg (Finset.erase · n) h.objects
  represents := by
    rw [Database.toMap_erase]
    exact (h.represents.delete hdelete).2

/-- An object that is not there is not there to erase. -/
theorem Agrees.erase_of_notMem (h : Agrees x d) {n : ℕ} (hn : n ∉ x.objects) :
    Agrees x (d.erase n) := by
  have herase : d.erase n = d := by
    rw [Database.erase, Finset.erase_eq_of_notMem (h.objects ▸ hn)]
  rwa [herase]

theorem Agrees.rollback (h : Agrees x d) (n : ℕ) :
    Agrees (x.step cfg (.rollback n)) (d.step cfg (.rollback n)) := by
  have haccept := h.delete_accepted_iff cfg n
  rw [System.step, Database.step]
  by_cases hn : n ∈ x.objects
  swap
  · rw [if_neg hn]
    exact h.erase_of_notMem hn
  rw [if_pos hn]
  rw [deleteObject.eq_def, if_neg (not_not.mpr rfl), if_neg (not_not.mpr rfl)] at *
  cases hdelete : x.state.createdAnalogValues.delete n with
  | none => simp [hdelete, hn] at haccept
  | some t => exact h.erase hdelete

theorem Agrees.delete (h : Agrees x d) (n : ℕ) :
    Agrees (x.step cfg (.delete n)) (d.step cfg (.delete n)) := by
  have haccept := h.delete_accepted_iff cfg n
  have hroll : Agrees (x.step cfg (.rollback n)) (d.step cfg (.rollback n)) := h.rollback n
  simp only [System.step, Database.step] at hroll ⊢
  by_cases hn : n ∈ x.objects
  · rw [if_pos hn] at hroll ⊢
    simpa only [haccept.mpr hn, if_true] using hroll
  · rw [if_neg hn] at hroll ⊢
    exact hroll

theorem Agrees.write (h : Agrees x d) (p : PropertyReference) (value : binary32.Value)
    (priority : ℕ) :
    Agrees (x.step cfg (.write p value priority)) (d.step cfg (.write p value priority)) := by
  rw [System.step, Database.step, setPropertyReal]
  by_cases hdev : p.deviceInstance = cfg.deviceInstance
  swap
  · rw [if_pos hdev, if_neg fun hp => hdev hp.1]
    exact h
  rw [if_neg (not_not.mpr hdev)]
  by_cases hvalue : p.objectType = objectTypeAnalogValue
      ∧ p.propertyIdentifier = propertyIdentifierPresentValue
  swap
  · have hnot : ¬ (p.deviceInstance = cfg.deviceInstance ∧ p.objectType = objectTypeAnalogValue
        ∧ p.propertyIdentifier = propertyIdentifierPresentValue ∧ p.objectInstance ∈ d.objects) :=
      fun hp => hvalue ⟨hp.2.1, hp.2.2.1⟩
    rw [if_neg hvalue, if_neg hnot]
    split <;> exact ⟨h.objects, h.represents⟩
  have hout :
      ¬ p.names objectTypeAnalogOutput analogOutputInstance propertyIdentifierPresentValue :=
    fun hp => absurd (hp.1.symm.trans hvalue.1) (by decide)
  have hnone := h.represents.write_eq_none_iff (n := p.objectInstance) (v := value)
  rw [Database.toMap_eq_none_iff] at hnone
  rw [if_neg hout, if_pos hvalue]
  cases hwrite : x.state.createdAnalogValues.write p.objectInstance value with
  | none =>
    rw [if_neg fun hp => hnone.mp hwrite hp.2.2.2]
    exact h
  | some t =>
    have hmem : p.objectInstance ∈ d.objects := by
      by_contra hn
      simp [hnone.mpr hn] at hwrite
    rw [if_pos ⟨hdev, hvalue.1, hvalue.2, hmem⟩]
    refine ⟨h.objects.trans (Finset.insert_eq_self.mpr hmem).symm, ?_⟩
    rw [Database.toMap_put]
    exact (h.represents.write hwrite).2

theorem Agrees.restore (h : Agrees x d) (restored : RestoredAnalogValues) (addObject : ℕ → Bool) :
    Agrees (x.step cfg (.restore restored addObject))
      (d.step cfg (.restore restored addObject)) := by
  obtain ⟨hrep, haccount⟩ := h.represents.apply addObject restored
  have hmap : (d.step cfg (.restore restored addObject)).toMap
      = restoreMap addObject restored.toList d.toMap := by
    rw [Database.step, Database.toMap_foldl_restoreEntry, Database.toMap_restrict]
    rfl
  rw [← hmap] at hrep
  refine ⟨?_, hrep⟩
  change Runs.run _ _ _ = _
  rw [← h.instances_eq, haccount.2]
  ext n
  rw [hrep.mem_instances, Database.isSome_toMap_iff]

/-- **Every event keeps the two stores in step.** -/
theorem Agrees.step (h : Agrees x d) (e : DatabaseEvent) :
    Agrees (x.step cfg e) (d.step cfg e) := by
  cases e with
  | create n => exact h.create n
  | rollback n => exact h.rollback n
  | delete n => exact h.delete n
  | write p value priority => exact h.write p value priority
  | restore restored addObject => exact h.restore restored addObject

/-! ## Runs -/

/-- `GetPropertyReal` of an Analog Value's Present_Value is what the table holds. -/
theorem getPropertyReal_analogValue (cfg : Config) (s : State) (n : ℕ) (index : Option ℕ) :
    getPropertyReal cfg s ⟨cfg.deviceInstance, objectTypeAnalogValue, n,
      propertyIdentifierPresentValue, index⟩ = s.createdAnalogValues.valueOf n := by
  have hne : objectTypeAnalogValue ≠ objectTypeAnalogInput := by decide
  have hne' : objectTypeAnalogValue ≠ objectTypeAnalogOutput := by decide
  simp [getPropertyReal, PropertyReference.names, State.serveOutput, hne, hne',
    CreatedAnalogValues.valueOf]

/-- **The table of created Analog Values always agrees with the stack's object database.**  After
any run of creations, rollbacks, deletions, writes and restores from power-on:

* no two slots in use hold one instance, and the instances in use are the stack's objects, at most
  eight;
* Present_Value is served for exactly these, with the value last written or restored, 0.0 since the
  creation if there was none;
* a create of a missing object is refused only when there are eight, never because it is tracked,
  and a delete of a present one is never refused;
* a restore removes only objects that are there and adds only missing ones. -/
theorem table_agrees_with_database (cfg : Config) (now : ℤ) (es : List DatabaseEvent) :
    let x := Runs.run (System.step cfg) es ⟨.powerOn cfg now, ∅⟩
    let d := Runs.run (Database.step cfg) es ⟨∅, fun _ => binary32.round 0⟩
    x.state.createdAnalogValues.Distinct
    ∧ x.state.createdAnalogValues.instances = x.objects
    ∧ x.objects.card ≤ maxCreatedAnalogValues
    ∧ x.objects = d.objects
    ∧ (∀ n index, getPropertyReal cfg x.state ⟨cfg.deviceInstance, objectTypeAnalogValue, n,
        propertyIdentifierPresentValue, index⟩ = if n ∈ x.objects then some (d.value n) else none)
    ∧ (∀ n, (x.state.createdAnalogValues.findCreated n = none ↔ n ∉ x.objects)
      ∧ ((createObject cfg cfg.deviceInstance objectTypeAnalogValue n x.state).1.accepted = true
        ↔ n ∉ x.objects ∧ x.objects.card < maxCreatedAnalogValues)
      ∧ ((deleteObject cfg cfg.deviceInstance objectTypeAnalogValue n x.state).1.accepted = true
        ↔ n ∈ x.objects))
    ∧ ∀ restored addObject,
        Account (applyRestoredConfiguration addObject restored x.state.createdAnalogValues).2
          x.objects (x.step cfg (.restore restored addObject)).objects := by
  intro x d
  have h : Agrees x d := Runs.run_simulation (R := Agrees) (fun _ _ e hs => hs.step e) es
    ⟨rfl, CreatedAnalogValues.represents_atPowerOn⟩
  refine ⟨h.represents.distinct, h.instances_eq, h.card_le, h.objects, fun n index => ?_,
    fun n => ⟨?_, h.create_accepted_iff cfg n, h.delete_accepted_iff cfg n⟩,
    fun restored addObject => ?_⟩
  · rw [getPropertyReal_analogValue, h.represents.valueOf_eq, h.objects]
    rfl
  · rw [h.represents.findCreated_eq_none_iff, Database.toMap_eq_none_iff, h.objects]
  · have haccount := (h.represents.apply addObject restored).2
    rw [h.instances_eq] at haccount
    exact ⟨haccount.1, rfl⟩

/-! ## Runs of the whole device -/

/-- **Every event keeps the instances distinct.** -/
theorem Event.distinct_step (cfg : Config) (s : State) (e : Event)
    (h : s.createdAnalogValues.Distinct) : (e.step cfg s).createdAnalogValues.Distinct := by
  have hrep := h.represents
  cases e with
  | action a =>
    cases a with
    | restore addObject =>
      rw [Event.step, Action.perform, restoreBlock]
      split
      · exact (hrep.apply addObject s.restoredAnalogValues).1.distinct
      · exact h
    | liftCarTick now => exact h
    | passengerAlarm now =>
      rw [Event.step, Action.perform, passengerAlarmBlock]
      split <;> exact h
    | restart nowMs =>
      rw [Event.step, Action.perform, restartBlock]
      split <;> exact h
    | key command => cases command <;> exact h
  | request r =>
    cases r with
    | setPropertyReal p value priority =>
      rw [Event.step, Request.perform, setPropertyReal]
      split
      · exact h
      split
      · exact h
      split
      · cases hw : s.createdAnalogValues.write p.objectInstance value with
        | none => exact h
        | some t => exact (hrep.write hw).2.distinct
      · exact h
    | createObject deviceInstance objectType objectInstance =>
      rw [Event.step, Request.perform, createObject.eq_def]
      split
      · exact h
      split
      · exact h
      cases hc : s.createdAnalogValues.create objectInstance with
      | none => exact h
      | some t => exact (hrep.create hc).2.distinct
    | deleteObject deviceInstance objectType objectInstance =>
      rw [Event.step, Request.perform, deleteObject.eq_def]
      split
      · exact h
      split
      · exact h
      cases hd : s.createdAnalogValues.delete objectInstance with
      | none => exact h
      | some t => exact (hrep.delete hd).2.distinct
    | _ =>
      rw [Request.createdAnalogValues_step cfg s ?_ ?_ ?_]
      · exact h
      all_goals rintro _ _ _ ⟨⟩

theorem Reachable.distinct {cfg : Config} {s : State} (h : Reachable cfg s) :
    s.createdAnalogValues.Distinct :=
  h.invariant (P := fun s => s.createdAnalogValues.Distinct)
    (fun _ => CreatedAnalogValues.represents_atPowerOn.distinct)
    fun s e hs => Event.distinct_step cfg s e hs

end Controller
