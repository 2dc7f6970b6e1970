import ElevatorController.Values.Restore

/-!
# Values/Exchange — the table is exchanged for the staged list

    table {1, 2, 3}, list [(3, a), (4, b), (3, c)]   ⟹   table {3 ↦ c, 4 ↦ b}

With a stack that serves every AddObject, applying a staged list leaves exactly the list's
instances, each with the value of its last entry.  The calls are counted by conservation: what was
there and what is added is what is there and what is removed.
-/

namespace Controller

open BinaryFormat CreatedAnalogValues

/-! ## The last entry of an instance -/

/-- The value of the last entry of an instance. -/
def lastValue (vs : List RestoredAnalogValue) : ValueMap := fun n =>
  ((vs.filter fun r => r.objectInstance == n).getLast?).map RestoredAnalogValue.presentValue

theorem lastValue_concat (vs : List RestoredAnalogValue) (r : RestoredAnalogValue) :
    lastValue (vs ++ [r])
      = Function.update (lastValue vs) r.objectInstance (some r.presentValue) := by
  funext n
  rw [lastValue, List.filter_append, Function.update_apply]
  by_cases hn : n = r.objectInstance
  · rw [if_pos hn, List.filter_cons_of_pos (by simp [hn]), List.filter_nil, List.getLast?_concat]
    rfl
  · rw [if_neg hn, List.filter_cons_of_neg (by simpa using Ne.symm hn), List.filter_nil,
      List.append_nil]
    rfl

theorem lastValue_eq_none {vs : List RestoredAnalogValue} {n : ℕ} :
    lastValue vs n = none ↔ n ∉ restoredInstances vs := by
  rw [lastValue, Option.map_eq_none_iff, List.getLast?_eq_none_iff, List.filter_eq_nil_iff,
    mem_restoredInstances, List.any_eq_true]
  simp

/-- Putting every value of a list back leaves the last one of each instance. -/
theorem foldl_update_eq (vs : List RestoredAnalogValue) (m : ValueMap) :
    vs.foldl (fun (m : ValueMap) r => Function.update m r.objectInstance (some r.presentValue)) m
      = fun n => (lastValue vs n).or (m n) := by
  induction vs using List.reverseRecOn with
  | nil => rfl
  | append_singleton vs r ih =>
    funext n
    rw [List.foldl_append, List.foldl_cons, List.foldl_nil, ih, lastValue_concat,
      Function.update_apply, Function.update_apply]
    split <;> rfl

/-- **On the map, a restore that the stack serves is the list.** -/
theorem restoreMap_served (vs : List RestoredAnalogValue) (m : ValueMap) :
    restoreMap (fun _ => true) vs m = lastValue vs := by
  have hentry : restoreEntry (fun _ => true) = fun (m : ValueMap) r =>
      Function.update m r.1.objectInstance (some r.1.presentValue) :=
    funext fun _ => funext fun _ => if_pos (Or.inr rfl)
  have hfold : (vs.zipIdx.map Prod.fst).foldl (fun (m : ValueMap) r =>
      Function.update m r.objectInstance (some r.presentValue)) (keepInstances vs m)
      = vs.zipIdx.foldl (fun (m : ValueMap) r =>
        Function.update m r.1.objectInstance (some r.1.presentValue)) (keepInstances vs m) :=
    List.foldl_map
  rw [List.zipIdx_map_fst] at hfold
  rw [restoreMap, hentry, ← hfold, foldl_update_eq]
  funext n
  cases hn : lastValue vs n with
  | some v => rfl
  | none =>
    refine if_neg fun hany => ?_
    exact lastValue_eq_none.mp hn (mem_restoredInstances.mpr hany)

/-! ## The calls -/

/-- An AddObject of the instance, whatever its type and whether or not it succeeds. -/
def StackCall.adds (n : ℕ) : StackCall → Bool
  | .addObject _ objectInstance _ => objectInstance == n
  | _ => false

/-- A RemoveObject of the instance. -/
def StackCall.removes (n : ℕ) : StackCall → Bool
  | .removeObject _ objectInstance => objectInstance == n
  | _ => false

/-- 1 for a member, 0 for another. -/
def member (n : ℕ) (S : Finset ℕ) : ℕ := if n ∈ S then 1 else 0

theorem Account.cons_iff {c : StackCall} {calls : List StackCall} {S S' : Finset ℕ} :
    Account (c :: calls) S S' ↔ c.Allowed S ∧ Account calls (c.onObjects S) S' := by
  rw [Account, Account, Runs.steps, List.forall_mem_cons, and_assoc]
  rfl

/-- **Conservation**: what was there and what is added is what is there and what is removed. -/
theorem Account.conservation (n : ℕ) : ∀ {calls : List StackCall} {S S' : Finset ℕ},
    Account calls S S' → (∀ objectType m, StackCall.addObject objectType m false ∉ calls) →
    member n S + calls.countP (·.adds n) = member n S' + calls.countP (·.removes n)
  | [], _, _, h, _ => by rw [← h.2]; rfl
  | c :: calls, S, S', h, hserved => by
    obtain ⟨hallowed, hrest⟩ := Account.cons_iff.mp h
    have ih := hrest.conservation n fun objectType m hmem =>
      hserved objectType m (List.mem_cons_of_mem _ hmem)
    rw [List.countP_cons, List.countP_cons]
    cases c with
    | addObject objectType m succeeded =>
      obtain rfl : succeeded = true := by
        cases succeeded
        · exact absurd List.mem_cons_self (hserved objectType m)
        · rfl
      have hnew : m ∉ S := hallowed.2
      rcases eq_or_ne m n with rfl | hne
      · simp only [StackCall.onObjects, member, Finset.mem_insert_self, if_true, hnew, if_false,
          StackCall.adds, StackCall.removes, beq_self_eq_true, Bool.false_eq_true] at ih ⊢
        omega
      · simp only [StackCall.onObjects, member, Finset.mem_insert, hne.symm, false_or,
          StackCall.adds, StackCall.removes, beq_iff_eq, hne, if_false, Bool.false_eq_true] at ih ⊢
        omega
    | removeObject objectType m =>
      have hthere : m ∈ S := hallowed.2
      rcases eq_or_ne m n with rfl | hne
      · simp only [StackCall.onObjects, member, Finset.notMem_erase, if_false, hthere, if_true,
          StackCall.adds, StackCall.removes, beq_self_eq_true, Bool.false_eq_true] at ih ⊢
        omega
      · simp only [StackCall.onObjects, member, Finset.mem_erase, hne.symm, ne_eq,
          not_false_eq_true, true_and, StackCall.adds, StackCall.removes, beq_iff_eq, hne, if_false,
          Bool.false_eq_true] at ih ⊢
        omega
    | _ => exact ih

/-- The calls of a restore that the stack serves: RemoveObject of instances not in the list, and
AddObject and UpdateValue of those that are. -/
def StackCall.OfRestore (S : Finset ℕ) : StackCall → Prop
  | .removeObject objectType n => objectType = objectTypeAnalogValue ∧ n ∉ S
  | .addObject objectType n succeeded =>
    objectType = objectTypeAnalogValue ∧ n ∈ S ∧ succeeded = true
  | .updateValue objectType n propertyIdentifier =>
    objectType = objectTypeAnalogValue ∧ n ∈ S
      ∧ propertyIdentifier = propertyIdentifierPresentValue
  | .sendIAm => False

theorem StackCall.OfRestore.not_mem {c : StackCall} {S : Finset ℕ} {n : ℕ} (h : c.OfRestore S)
    (hc : c.removes n = true) : n ∉ S := by
  cases c with
  | removeObject objectType m =>
    obtain rfl : m = n := beq_iff_eq.mp hc
    exact h.2
  | _ => exact absurd hc Bool.false_ne_true

theorem StackCall.OfRestore.mem {c : StackCall} {S : Finset ℕ} {n : ℕ} (h : c.OfRestore S)
    (hc : c.adds n = true) : n ∈ S := by
  cases c with
  | addObject objectType m succeeded =>
    obtain rfl : m = n := beq_iff_eq.mp hc
    exact h.2.1
  | _ => exact absurd hc Bool.false_ne_true

theorem restored_mem {vs : List RestoredAnalogValue} {e : RestoredAnalogValue × ℕ}
    (he : e ∈ vs.zipIdx) : e.1.objectInstance ∈ restoredInstances vs := by
  rw [List.mem_zipIdx_iff_getElem?] at he
  exact List.mem_toFinset.mpr (List.mem_map_of_mem (List.mem_of_getElem? he))

section Calls

variable {restored : RestoredAnalogValues} {t : CreatedAnalogValues}

theorem ofRestore_sweep : ∀ c ∈ (SlotTable.sweep (removeVisit restored) t).2,
    c.OfRestore (restoredInstances restored.toList) := by
  intro c hc
  rw [SlotTable.sweep_snd, List.mem_flatMap] at hc
  obtain ⟨i, -, hc⟩ := hc
  rw [removeVisit] at hc
  split at hc
  · rename_i hremove
    obtain rfl := List.mem_singleton.mp hc
    exact ⟨rfl, fun hmem => hremove.2 (mem_restoredInstances.mp hmem)⟩
  · exact absurd hc List.not_mem_nil

theorem ofRestore_restoreStep {S : Finset ℕ} {s : CreatedAnalogValues × List StackCall}
    {r : RestoredAnalogValue × ℕ} (hr : r.1.objectInstance ∈ S) (hs : ∀ c ∈ s.2, c.OfRestore S) :
    ∀ c ∈ (restoreStep (fun _ => true) s r).2, c.OfRestore S := by
  rw [restoreStep]
  cases s.1.findCreated r.1.objectInstance with
  | some slot => exact List.forall_mem_append.mpr ⟨hs, by simp [StackCall.OfRestore, hr]⟩
  | none =>
    cases s.1.findFree with
    | none => exact hs
    | some slot => exact List.forall_mem_append.mpr ⟨hs, by simp [StackCall.OfRestore, hr]⟩

theorem ofRestore_restoreLoop {S : Finset ℕ} : ∀ {l : List (RestoredAnalogValue × ℕ)}
    {s : CreatedAnalogValues × List StackCall}, (∀ r ∈ l, r.1.objectInstance ∈ S) →
    (∀ c ∈ s.2, c.OfRestore S) →
    ∀ c ∈ (l.foldl (restoreStep fun _ => true) s).2, c.OfRestore S
  | [], _, _, hs => hs
  | r :: l, _, hl, hs =>
    ofRestore_restoreLoop (l := l) (fun r' hr' => hl r' (List.mem_cons_of_mem _ hr'))
      (ofRestore_restoreStep (hl r List.mem_cons_self) hs)

theorem ofRestore_apply : ∀ c ∈ (applyRestoredConfiguration (fun _ => true) restored t).2,
    c.OfRestore (restoredInstances restored.toList) := by
  exact ofRestore_restoreLoop (fun r hr => restored_mem hr) ofRestore_sweep

end Calls

/-! ## Applying the list again -/

/-- The same instances in the same slots, and the free slots untouched. -/
def SameSlots (t t' : CreatedAnalogValues) : Prop :=
  ∀ i, (t' i).inUse = (t i).inUse ∧ (t' i).objectInstance = (t i).objectInstance
    ∧ ((t i).inUse = false → t' i = t i)

theorem SameSlots.trans {t t' t'' : CreatedAnalogValues} (h : SameSlots t t')
    (h' : SameSlots t' t'') : SameSlots t t'' := fun i =>
  ⟨(h' i).1.trans (h i).1, (h' i).2.1.trans (h i).2.1, fun hfree =>
    ((h' i).2.2 ((h i).1.trans hfree)).trans ((h i).2.2 hfree)⟩

theorem SameSlots.instances_eq {t t' : CreatedAnalogValues} (h : SameSlots t t') :
    t'.instances = t.instances := by
  ext n
  rw [SlotTable.mem_keys, SlotTable.mem_keys]
  exact exists_congr fun i => by rw [(h i).1, (h i).2.1]

theorem sameSlots_setPresentValue {t : CreatedAnalogValues} {n : ℕ}
    {slot : Fin maxCreatedAnalogValues} (hf : t.findCreated n = some slot) (v : binary32.Value) :
    SameSlots t (t.setPresentValue slot v) := fun i => by
  rw [setPresentValue, Function.update_apply]
  split
  · rename_i hi
    subst hi
    exact ⟨rfl, rfl, fun hfree => absurd (SlotTable.find_eq_some hf).1 (by simp [hfree])⟩
  · exact ⟨rfl, rfl, fun _ => rfl⟩

/-- Where every instance is in the list, the first loop does nothing. -/
theorem sweep_of_subset {restored : RestoredAnalogValues} {t : CreatedAnalogValues}
    (h : t.instances ⊆ restoredInstances restored.toList) :
    SlotTable.sweep (removeVisit restored) t = (t, []) := by
  have hvisit : ∀ i, removeVisit restored (t i) = (t i, []) := fun i => if_neg fun hremove =>
    hremove.2 (mem_restoredInstances.mp (h (SlotTable.mem_keys.mpr ⟨i, hremove.1, rfl⟩)))
  refine Prod.ext ?_ ?_
  · rw [SlotTable.sweep_fst]
    exact funext fun i => by rw [hvisit]
  · rw [SlotTable.sweep_snd]
    exact List.flatMap_eq_nil_iff.mpr fun i _ => by rw [hvisit]

/-- Putting values back where every instance is there moves none. -/
theorem sameSlots_restoreLoop : ∀ {l : List (RestoredAnalogValue × ℕ)}
    {s : CreatedAnalogValues × List StackCall}, (∀ r ∈ l, r.1.objectInstance ∈ s.1.instances) →
    SameSlots s.1 (l.foldl (restoreStep fun _ => true) s).1
  | [], _, _ => fun _ => ⟨rfl, rfl, fun _ => rfl⟩
  | r :: l, s, hl => by
    have hr := hl r List.mem_cons_self
    cases hf : s.1.findCreated r.1.objectInstance with
    | none =>
      obtain ⟨i, huse, hkey⟩ := SlotTable.mem_keys.mp hr
      exact absurd hkey (SlotTable.find_eq_none_iff.mp hf i huse)
    | some slot =>
      have hstep : SameSlots s.1 (restoreStep (fun _ => true) s r).1 := by
        rw [restoreStep, hf]
        exact sameSlots_setPresentValue hf _
      refine hstep.trans (sameSlots_restoreLoop fun r' hr' => ?_)
      rw [hstep.instances_eq]
      exact hl r' (List.mem_cons_of_mem _ hr')

/-- With the same instances in the same slots and the same map, the tables are the same. -/
theorem SameSlots.eq {t t' : CreatedAnalogValues} {m : ValueMap} (h : SameSlots t t')
    (ht : t.Represents m) (ht' : t'.Represents m) : t' = t := by
  funext i
  obtain ⟨huse, hinstance, hfree⟩ := h i
  by_cases hi : (t i).inUse = true
  · have hfind := (SlotTable.find_eq_some_iff ht.distinct).mpr ⟨hi, rfl⟩
    have hfind' := (SlotTable.find_eq_some_iff ht'.distinct).mpr ⟨huse.trans hi, hinstance⟩
    have hvalue := (ht'.findCreated_eq_some hfind').symm.trans (ht.findCreated_eq_some hfind)
    cases hslot : t i
    cases hslot' : t' i
    simp_all
  · exact hfree (Bool.eq_false_iff.mpr hi)

/-! ## The exchange -/

section Exchange

variable {t : CreatedAnalogValues} (restored : RestoredAnalogValues)

theorem represents_exchanged (hd : t.Distinct) :
    (applyRestoredConfiguration (fun _ => true) restored t).1.Represents
      (lastValue restored.toList) := by
  have h := (hd.represents.apply (fun _ => true) restored).1
  rwa [restoreMap_served] at h

theorem instances_exchanged (hd : t.Distinct) :
    instances (applyRestoredConfiguration (fun _ => true) restored t).1
      = restoredInstances restored.toList := by
  ext n
  rw [(represents_exchanged restored hd).mem_instances, ← not_iff_not,
    Option.not_isSome_iff_eq_none, lastValue_eq_none]

/-- **Each instance is removed once if only the table has it, added once if only the list has it**,
and neither if both do. -/
theorem count_exchanged (hd : t.Distinct) (n : ℕ) :
    let calls := (applyRestoredConfiguration (fun _ => true) restored t).2
    calls.countP (·.removes n)
        = (if n ∈ t.instances ∧ n ∉ restoredInstances restored.toList then 1 else 0)
      ∧ calls.countP (·.adds n)
        = if n ∈ restoredInstances restored.toList ∧ n ∉ t.instances then 1 else 0 := by
  intro calls
  have hcalls : ∀ c ∈ calls, c.OfRestore _ := ofRestore_apply
  have haccount := (hd.represents.apply (fun _ => true) restored).2
  rw [instances_exchanged restored hd] at haccount
  have hconserve : member n t.instances + calls.countP (·.adds n)
      = member n (restoredInstances restored.toList) + calls.countP (·.removes n) :=
    haccount.conservation n fun objectType m hmem => Bool.false_ne_true (hcalls _ hmem).2.2
  by_cases hn : n ∈ restoredInstances restored.toList
  · have hremoves : calls.countP (·.removes n) = 0 :=
      List.countP_eq_zero.mpr fun c hc hn' => (hcalls c hc).not_mem hn' hn
    rw [member, member, if_pos hn, hremoves] at hconserve
    simp only [hremoves, hn, not_true_eq_false, and_false, true_and, if_false]
    by_cases hthere : n ∈ t.instances
    · rw [if_pos hthere] at hconserve
      rw [if_neg (not_not.mpr hthere)]
      omega
    · rw [if_neg hthere] at hconserve
      rw [if_pos hthere]
      omega
  · have hadds : calls.countP (·.adds n) = 0 :=
      List.countP_eq_zero.mpr fun c hc hn' => hn ((hcalls c hc).mem hn')
    rw [member, member, if_neg hn, hadds] at hconserve
    simp only [hadds, hn, not_false_eq_true, and_true, false_and, if_false]
    omega

/-- **`ApplyRestoredConfiguration` makes the table exactly the staged set.**  Each instance in use
is one of the list's and holds the value of its last entry; a free slot is found for every missing
instance; each instance that only the table has is removed once, each that only the list has is
added once, and no other; and applying the list again changes nothing and calls neither. -/
theorem restore_exchanges (hd : t.Distinct) :
    let vs := restored.toList
    let r := applyRestoredConfiguration (fun _ => true) restored t
    let again := applyRestoredConfiguration (fun _ => true) restored r.1
    (r.1.Distinct ∧ r.1.instances = restoredInstances vs
      ∧ ∀ i, (r.1 i).inUse = true →
        lastValue vs (r.1 i).objectInstance = some (r.1 i).presentValue)
    ∧ (∀ before e after, vs.zipIdx = before ++ e :: after →
      let s := before.foldl (restoreStep fun _ => true) (SlotTable.sweep (removeVisit restored) t)
      s.1.findCreated e.1.objectInstance = none → ∃ slot, s.1.findFree = some slot)
    ∧ ((∀ c ∈ r.2, c.OfRestore (restoredInstances vs))
      ∧ ∀ n, r.2.countP (·.removes n)
          = (if n ∈ t.instances ∧ n ∉ restoredInstances vs then 1 else 0)
        ∧ r.2.countP (·.adds n) = if n ∈ restoredInstances vs ∧ n ∉ t.instances then 1 else 0)
    ∧ again.1 = r.1
    ∧ ∀ c ∈ again.2, ∀ n, c.removes n = false ∧ c.adds n = false := by
  intro vs r again
  have hr : r.1.Represents (lastValue vs) := represents_exchanged restored hd
  have hinstances : r.1.instances = restoredInstances vs := instances_exchanged restored hd
  refine ⟨⟨hr.distinct, hinstances, fun i hi => ?_⟩, fun before e after hsplit => ?_,
    ⟨ofRestore_apply, count_exchanged restored hd⟩, ?_, fun c hc n => ?_⟩
  · exact hr.findCreated_eq_some ((SlotTable.find_eq_some_iff hr.distinct).mpr ⟨hi, rfl⟩)
  · intro s hnone
    have hbefore : before ⊆ vs.zipIdx := fun e' he' => by
      rw [hsplit]
      exact List.mem_append_left _ he'
    obtain ⟨h, hsub, -⟩ := hd.represents.restoreLoop (fun _ => true) restored hbefore
    refine SlotTable.exists_free (k := e.1.objectInstance) h.distinct ?_ hsub ?_ ?_
    · exact (card_restoredInstances_le _).trans (by simpa using restored.len_le)
    · have he : e ∈ vs.zipIdx := by
        rw [hsplit]
        exact List.mem_append_right _ List.mem_cons_self
      exact restored_mem he
    · intro hmem
      obtain ⟨i, huse, hkey⟩ := SlotTable.mem_keys.mp hmem
      exact SlotTable.find_eq_none_iff.mp hnone i huse hkey
  · have hagain : again = vs.zipIdx.foldl (restoreStep fun _ => true) (r.1, []) := by
      rw [← sweep_of_subset hinstances.subset]
      rfl
    have hsame : SameSlots r.1 again.1 := by
      rw [hagain]
      exact sameSlots_restoreLoop (s := (r.1, [])) fun e he => hinstances ▸ restored_mem he
    exact hsame.eq hr (represents_exchanged restored hr.distinct)
  · obtain ⟨hremoves, hadds⟩ := count_exchanged restored hr.distinct n
    exact ⟨Bool.eq_false_iff.mpr (List.countP_eq_zero.mp
        (hremoves.trans (if_neg fun h => h.2 (hinstances.subset h.1))) c hc),
      Bool.eq_false_iff.mpr (List.countP_eq_zero.mp
        (hadds.trans (if_neg fun h => h.2 (hinstances.symm.subset h.1))) c hc)⟩

/-- A full table, with the instances from 1 to 8. -/
def fullTable : CreatedAnalogValues := fun i => ⟨true, i + 1, binary32.round 0⟩

/-- A staged list that shares no instance with it. -/
def disjointList : RestoredAnalogValues :=
  ⟨fun i => ⟨i + 11, binary32.round 1⟩, maxCreatedAnalogValues, le_rfl⟩

/-- A full table and a full list that shares nothing with it are exchanged in place. -/
theorem restore_exchanges_full :
    instances (applyRestoredConfiguration (fun _ => true) disjointList fullTable).1
      = restoredInstances disjointList.toList := by
  have hd : fullTable.Distinct := fun i j _ _ h => Fin.ext (Nat.succ.inj h)
  exact (restore_exchanges disjointList hd).1.2.1

end Exchange

end Controller
