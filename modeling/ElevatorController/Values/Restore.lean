import ElevatorController.Values.Table
import ElevatorController.Machinery.Runs

/-!
# Values/Restore — what applying a restored configuration does

    delete what the image does not have;  for each staged value: recreate if missing, put it back

On the map: `restoreMap`.  On the stack's object database: a run of calls, each of them allowed in
the database the calls before it leave (`Account`).  There is always a slot for a missing instance,
because after the deletions the instances in use all come from the image.
-/

namespace Controller

open BinaryFormat

/-! ## Calls, as the stack's object database sees them -/

/-- The created Analog Values in the stack's object database after a call of the application. -/
def StackCall.onObjects (S : Finset ℕ) : StackCall → Finset ℕ
  | .addObject _ objectInstance true => insert objectInstance S
  | .removeObject _ objectInstance => S.erase objectInstance
  | _ => S

/-- A call the stack can serve: only an object it does not have is added, and only one it has is
removed or reported as changed. -/
def StackCall.Allowed (S : Finset ℕ) : StackCall → Prop
  | .addObject objectType objectInstance _ =>
    objectType = objectTypeAnalogValue ∧ objectInstance ∉ S
  | .removeObject objectType objectInstance =>
    objectType = objectTypeAnalogValue ∧ objectInstance ∈ S
  | .updateValue objectType objectInstance _ =>
    objectType = objectTypeAnalogValue ∧ objectInstance ∈ S
  | .sendIAm => True

/-- The calls, each allowed where it is made, take the database from `S` to `S'`. -/
def Account (calls : List StackCall) (S S' : Finset ℕ) : Prop :=
  (∀ x ∈ Runs.steps StackCall.onObjects calls S, x.2.Allowed x.1)
    ∧ Runs.run StackCall.onObjects calls S = S'

theorem account_nil (S : Finset ℕ) : Account [] S S := ⟨nofun, rfl⟩

theorem Account.cons {c : StackCall} {calls : List StackCall} {S S' : Finset ℕ} (hc : c.Allowed S)
    (h : Account calls (c.onObjects S) S') : Account (c :: calls) S S' :=
  ⟨List.forall_mem_cons.mpr ⟨hc, h.1⟩, h.2⟩

theorem Account.append {calls calls' : List StackCall} {S S' S'' : Finset ℕ}
    (h : Account calls S S') (h' : Account calls' S' S'') : Account (calls ++ calls') S S'' := by
  obtain ⟨hall, rfl⟩ := h
  refine ⟨?_, by rw [Runs.run_append, h'.2]⟩
  rw [Runs.steps_append]
  exact List.forall_mem_append.mpr ⟨hall, h'.1⟩

/-! ## The map -/

/-- One restored value, with its index in the list: put back if the object is there or can be
recreated. -/
def restoreEntry (addObject : ℕ → Bool) (m : ValueMap) (r : RestoredAnalogValue × ℕ) : ValueMap :=
  if (m r.1.objectInstance).isSome ∨ addObject r.2 = true then
    Function.update m r.1.objectInstance (some r.1.presentValue)
  else m

/-- The map restricted to the instances of a list. -/
def keepInstances (vs : List RestoredAnalogValue) (m : ValueMap) : ValueMap := fun n =>
  if vs.any (fun r => r.objectInstance == n) then m n else none

/-- What applying a restored list makes of the map. -/
def restoreMap (addObject : ℕ → Bool) (vs : List RestoredAnalogValue) (m : ValueMap) : ValueMap :=
  vs.zipIdx.foldl (restoreEntry addObject) (keepInstances vs m)

/-- The instances of a list. -/
def restoredInstances (vs : List RestoredAnalogValue) : Finset ℕ :=
  (vs.map RestoredAnalogValue.objectInstance).toFinset

theorem card_restoredInstances_le (vs : List RestoredAnalogValue) :
    (restoredInstances vs).card ≤ vs.length :=
  (List.toFinset_card_le _).trans_eq (List.length_map _)

namespace CreatedAnalogValues

/-! ## The first loop: deletions -/

variable {t : CreatedAnalogValues} {m : ValueMap} {restored : RestoredAnalogValues}

/-- The first loop releases the slots whose instance is not restored. -/
theorem sweep_removeVisit_fst (restored : RestoredAnalogValues) (t : CreatedAnalogValues) :
    (SlotTable.sweep (removeVisit restored) t).1
      = SlotTable.release CreatedAnalogValue.inUse CreatedAnalogValue.objectInstance
        (fun v => { v with inUse := false })
        (fun n => restored.toList.any fun r => r.objectInstance == n) t := by
  rw [SlotTable.sweep_fst]
  funext i
  rw [SlotTable.release, removeVisit, Buffer.any]
  by_cases hi : (t i).inUse = true <;>
    by_cases hkeep : (restored.toList.any fun r => r.objectInstance == (t i).objectInstance) = true
    <;> simp [hi, hkeep]

theorem Represents.sweep (h : t.Represents m) :
    Represents (SlotTable.sweep (removeVisit restored) t).1
      (keepInstances restored.toList m) where
  distinct := by
    rw [sweep_removeVisit_fst]
    exact SlotTable.distinct_release (fun _ => rfl) h.distinct
  valueOf_eq := funext fun n => by
    rw [valueOf_eq_lookup, sweep_removeVisit_fst,
      SlotTable.lookup_release (fun _ => rfl) h.distinct, keepInstances]
    split
    · rw [← valueOf_eq_lookup, h.valueOf_eq]
    · rfl

/-- The calls of the first loop over a list of slots: each removes an instance still there. -/
theorem account_removeVisit (hd : t.Distinct) : ∀ (l : List (Fin maxCreatedAnalogValues))
    (_ : l.Nodup) (S : Finset ℕ), (∀ i ∈ l, (t i).inUse = true → (t i).objectInstance ∈ S) →
    ∃ S', Account (l.flatMap fun i => (removeVisit restored (t i)).2) S S'
      ∧ ∀ n, n ∈ S' ↔ n ∈ S ∧ ¬ ∃ i ∈ l, (t i).inUse = true ∧ (t i).objectInstance = n
        ∧ ¬ restored.any (fun r => r.objectInstance == n) = true
  | [], _, S, _ => ⟨S, account_nil S, by simp⟩
  | i :: l, hl, S, hS => by
    obtain ⟨hi, hl⟩ := List.nodup_cons.mp hl
    rw [List.flatMap_cons, removeVisit]
    split
    · rename_i hremove
      obtain ⟨S', haccount, hmem⟩ := account_removeVisit hd l hl
        (S.erase (t i).objectInstance) fun j hj huse => by
          refine Finset.mem_erase.mpr ⟨fun heq => ?_, hS j (List.mem_cons_of_mem _ hj) huse⟩
          exact hi (hd j i huse hremove.1 heq ▸ hj)
      refine ⟨S', .cons ⟨rfl, hS i List.mem_cons_self hremove.1⟩ haccount, fun n => ?_⟩
      rw [hmem, Finset.mem_erase, List.exists_mem_cons_iff]
      constructor
      · rintro ⟨⟨hne, hn⟩, hrest⟩
        exact ⟨hn, fun h => h.elim (fun hhead => hne hhead.2.1.symm) hrest⟩
      · rintro ⟨hn, hnone⟩
        obtain ⟨hhead, hrest⟩ := not_or.mp hnone
        exact ⟨⟨fun heq => hhead ⟨hremove.1, heq.symm, heq ▸ hremove.2⟩, hn⟩, hrest⟩
    · rename_i hkeep
      obtain ⟨S', haccount, hmem⟩ := account_removeVisit hd l hl S
        fun j hj => hS j (List.mem_cons_of_mem _ hj)
      refine ⟨S', haccount, fun n => ?_⟩
      rw [hmem, List.exists_mem_cons_iff, not_or]
      refine and_congr_right fun _ => (and_iff_right ?_).symm
      rintro ⟨huse, rfl, hnot⟩
      exact hkeep ⟨huse, hnot⟩

/-- **The first loop removes from the database exactly what it releases.** -/
theorem Represents.account_sweep (h : t.Represents m) :
    Account (SlotTable.sweep (removeVisit restored) t).2 t.instances
      (instances (SlotTable.sweep (removeVisit restored) t).1) := by
  rw [SlotTable.sweep_snd]
  obtain ⟨S', haccount, hmem⟩ := @account_removeVisit t restored h.distinct
    (List.finRange _) (List.nodup_finRange _) t.instances
    fun i _ huse => SlotTable.mem_keys.mpr ⟨i, huse, rfl⟩
  have heq : S' = instances (SlotTable.sweep (removeVisit restored) t).1 := by
    ext n
    rw [hmem, h.sweep.mem_instances, h.mem_instances, keepInstances]
    by_cases hkeep : (restored.toList.any fun r => r.objectInstance == n) = true
    · rw [if_pos hkeep]
      refine and_iff_left ?_
      rintro ⟨i, -, -, -, hnot⟩
      exact hnot hkeep
    · rw [if_neg hkeep]
      refine iff_of_false ?_ (by simp)
      rintro ⟨hsome, hnone⟩
      obtain ⟨i, huse, hkey⟩ := SlotTable.mem_keys.mp (h.mem_instances.mpr hsome)
      exact hnone ⟨i, List.mem_finRange i, huse, hkey, hkeep⟩
  rwa [← heq]

/-! ## The second loop: put every value back -/

/-- **One restored value is put back**, recreated if it must be; a slot is never short. -/
theorem Represents.putBack {addObject : ℕ → Bool} {s : CreatedAnalogValues × List StackCall}
    {r : RestoredAnalogValue × ℕ} {K S : Finset ℕ} (h : s.1.Represents m)
    (hK : K.card ≤ maxCreatedAnalogValues) (hsub : s.1.instances ⊆ K)
    (hr : r.1.objectInstance ∈ K) (haccount : Account s.2 S s.1.instances) :
    (restoreStep addObject s r).1.Represents (restoreEntry addObject m r)
      ∧ (restoreStep addObject s r).1.instances ⊆ K
      ∧ Account (restoreStep addObject s r).2 S (restoreStep addObject s r).1.instances := by
  have hgrow : ∀ {t' : CreatedAnalogValues},
      t'.Represents (Function.update m r.1.objectInstance (some r.1.presentValue)) →
      t'.instances = insert r.1.objectInstance s.1.instances := fun h' => by
    ext n
    rw [h'.mem_instances, Finset.mem_insert, h.mem_instances, Function.update_apply]
    split <;> simp_all
  have hinsert : insert r.1.objectInstance s.1.instances ⊆ K := Finset.insert_subset hr hsub
  rw [restoreStep, restoreEntry]
  cases hf : s.1.findCreated r.1.objectInstance with
  | some slot =>
    have hsome : (m r.1.objectInstance).isSome := by simp [h.findCreated_eq_some hf]
    have h' := h.overwrite (v := r.1.presentValue) hf
    have hthere : r.1.objectInstance ∈ s.1.instances := h.mem_instances.mpr hsome
    rw [if_pos (Or.inl hsome)]
    refine ⟨h', (hgrow h').trans_subset hinsert, haccount.append ?_⟩
    rw [hgrow h', Finset.insert_eq_self.mpr hthere]
    exact .cons ⟨rfl, hthere⟩ (account_nil _)
  | none =>
    have hnone := h.findCreated_eq_none_iff.mp hf
    have hnew : r.1.objectInstance ∉ s.1.instances := fun hmem => by
      simpa [hnone] using h.mem_instances.mp hmem
    obtain ⟨slot, hfree⟩ := SlotTable.exists_free h.distinct hK hsub hr hnew
    have hfree' : s.1.findFree = some slot := hfree
    simp only [hfree', hnone, Option.isSome_none, Bool.false_eq_true, false_or]
    by_cases hadd : addObject r.2 = true
    · have h' := h.add (v := r.1.presentValue) hf hfree'
      simp only [hadd, if_true]
      refine ⟨h', (hgrow h').trans_subset hinsert, haccount.append ?_⟩
      rw [hgrow h']
      exact .cons ⟨rfl, hnew⟩ (.cons ⟨rfl, Finset.mem_insert_self _ _⟩ (account_nil _))
    · simp only [hadd, Bool.false_eq_true, if_false]
      exact ⟨h, hsub, haccount.append (.cons ⟨rfl, hnew⟩ (account_nil _))⟩

theorem Represents.putBackAll {addObject : ℕ → Bool} {K S : Finset ℕ}
    (hK : K.card ≤ maxCreatedAnalogValues) : ∀ (l : List (RestoredAnalogValue × ℕ))
    {s : CreatedAnalogValues × List StackCall} {m : ValueMap}, s.1.Represents m →
    s.1.instances ⊆ K → (∀ r ∈ l, r.1.objectInstance ∈ K) → Account s.2 S s.1.instances →
    (l.foldl (restoreStep addObject) s).1.Represents (l.foldl (restoreEntry addObject) m)
      ∧ (l.foldl (restoreStep addObject) s).1.instances ⊆ K
      ∧ Account (l.foldl (restoreStep addObject) s).2 S
        (l.foldl (restoreStep addObject) s).1.instances
  | [], _, _, h, hsub, _, haccount => ⟨h, hsub, haccount⟩
  | r :: l, _, _, h, hsub, hl, haccount => by
    obtain ⟨h', hsub', haccount'⟩ : (restoreStep addObject _ r).1.Represents _ ∧ _ ∧ _ :=
      h.putBack hK hsub (hl r List.mem_cons_self) haccount
    exact Represents.putBackAll hK l h' hsub'
      (fun r' hr' => hl r' (List.mem_cons_of_mem _ hr')) haccount'

theorem mem_restoredInstances {vs : List RestoredAnalogValue} {n : ℕ} :
    n ∈ restoredInstances vs ↔ (vs.any fun r => r.objectInstance == n) = true := by
  simp [restoredInstances]

/-- **The second loop, as far as it has come**: what the table holds, whose instances they are, and
the calls so far. -/
theorem Represents.restoreLoop (h : t.Represents m) (addObject : ℕ → Bool)
    (restored : RestoredAnalogValues) {l : List (RestoredAnalogValue × ℕ)}
    (hl : l ⊆ restored.toList.zipIdx) :
    let s := l.foldl (restoreStep addObject) (SlotTable.sweep (removeVisit restored) t)
    s.1.Represents (l.foldl (restoreEntry addObject) (keepInstances restored.toList m))
      ∧ s.1.instances ⊆ restoredInstances restored.toList
      ∧ Account s.2 t.instances s.1.instances := by
  have hswept : Represents _ (keepInstances restored.toList m) := h.sweep
  refine Represents.putBackAll (K := restoredInstances restored.toList) ?_ _ hswept ?_ ?_
    h.account_sweep
  · exact (card_restoredInstances_le _).trans (by simpa using restored.len_le)
  · intro n hn
    have hsome := hswept.mem_instances.mp hn
    rw [keepInstances] at hsome
    split at hsome
    · exact mem_restoredInstances.mpr ‹_›
    · exact absurd hsome (by simp)
  · intro r hr
    have hr' : r.1 ∈ restored.toList := by
      have hmem := hl hr
      rw [List.mem_zipIdx_iff_getElem?] at hmem
      exact List.mem_of_getElem? hmem
    exact List.mem_toFinset.mpr (List.mem_map_of_mem hr')

/-- **`ApplyRestoredConfiguration` on the map and on the database.** -/
theorem Represents.apply (h : t.Represents m) (addObject : ℕ → Bool)
    (restored : RestoredAnalogValues) :
    (applyRestoredConfiguration addObject restored t).1.Represents
        (restoreMap addObject restored.toList m)
      ∧ Account (applyRestoredConfiguration addObject restored t).2 t.instances
        (applyRestoredConfiguration addObject restored t).1.instances := by
  obtain ⟨h', -, haccount⟩ := h.restoreLoop addObject restored (List.Subset.refl _)
  exact ⟨h', haccount⟩

end CreatedAnalogValues

end Controller
