import Mathlib

/-!
# Machinery/SlotTable — a fixed table of slots, each free or in use under a key

    for (i = 0; i < cap; ++i) if (slots[i].inUse && slots[i].key == k) return &slots[i];

`find` and `free` are the two search loops over such a table.  While no two slots in use share a
key (`Distinct`) the table *is* a partial map from keys to slots, `lookup`, and a store into one
slot is an insertion, an overwrite or a deletion in that map (`lookup_update`, `lookup_release`).
`exists_free` is the capacity argument: a table whose keys come from few enough has room for
another.
-/

namespace SlotTable

variable {σ κ : Type*} {cap : ℕ} (inUse : σ → Bool) (key : σ → κ)

/-- No two slots are in use under one key. -/
def Distinct (t : Fin cap → σ) : Prop :=
  ∀ i j, inUse (t i) = true → inUse (t j) = true → key (t i) = key (t j) → i = j

/-- Release the slots in use whose key is not kept: `off` is the slot with its flag cleared. -/
def release (off : σ → σ) (keep : κ → Bool) (t : Fin cap → σ) : Fin cap → σ :=
  fun i => if inUse (t i) && !keep (key (t i)) then off (t i) else t i

variable {inUse key} {t : Fin cap → σ} {i : Fin cap} {k : κ} {v x : σ}
  {off : σ → σ} {keep : κ → Bool}

/-- A store under a key no *other* slot has keeps the keys distinct. -/
theorem distinct_update (hd : Distinct inUse key t)
    (hfresh : ∀ j, j ≠ i → inUse (t j) = true → inUse x = true → key (t j) ≠ key x) :
    Distinct inUse key (Function.update t i x) := by
  intro a b ha hb hab
  rcases eq_or_ne a i with hai | hai <;> rcases eq_or_ne b i with hbi | hbi
  · rw [hai, hbi]
  · rw [hai, Function.update_self] at ha hab
    rw [Function.update_of_ne hbi] at hb hab
    exact absurd hab.symm (hfresh b hbi hb ha)
  · rw [hbi, Function.update_self] at hb hab
    rw [Function.update_of_ne hai] at ha hab
    exact absurd hab (hfresh a hai ha hb)
  · rw [Function.update_of_ne hai] at ha hab
    rw [Function.update_of_ne hbi] at hb hab
    exact hd a b ha hb hab

/-- A slot in use after a release was in use under a kept key, and is as it was. -/
theorem release_inUse_iff (hoff : ∀ x, inUse (off x) = false) :
    (release inUse key off keep t i = v ∧ inUse v = true)
      ↔ t i = v ∧ inUse v = true ∧ keep (key v) = true := by
  rw [release]
  split
  · rename_i h
    simp only [Bool.and_eq_true, Bool.not_eq_true'] at h
    constructor
    · rintro ⟨rfl, hv⟩
      exact absurd hv (by simp [hoff])
    · rintro ⟨rfl, -, hk⟩
      exact absurd hk (by simp [h.2])
  · rename_i h
    constructor
    · rintro ⟨rfl, hv⟩
      refine ⟨rfl, hv, ?_⟩
      simpa [hv] using h
    · exact fun ⟨hv, hu, _⟩ => ⟨hv, hu⟩

theorem distinct_release (hoff : ∀ x, inUse (off x) = false) (hd : Distinct inUse key t) :
    Distinct inUse key (release inUse key off keep t) := by
  intro a b ha hb hab
  obtain ⟨h1, h2, -⟩ := (release_inUse_iff hoff).mp ⟨rfl, ha⟩
  obtain ⟨h3, h4, -⟩ := (release_inUse_iff hoff).mp ⟨rfl, hb⟩
  refine hd a b (h1 ▸ h2) (h3 ▸ h4) ?_
  rw [h1, h3, hab]

/-! ## Visiting every slot

    for (i = 0; i < cap; ++i) visit(slots[i]);

A visit may rewrite its slot and emit; it reads no other slot, so the loop is a pointwise map. -/

variable {ω : Type*} (visit : σ → σ × List ω)

/-- Visit one slot. -/
def visitStep (s : (Fin cap → σ) × List ω) (i : Fin cap) : (Fin cap → σ) × List ω :=
  (Function.update s.1 i (visit (s.1 i)).1, s.2 ++ (visit (s.1 i)).2)

/-- Visit every slot, in order. -/
def sweep (t : Fin cap → σ) : (Fin cap → σ) × List ω :=
  (List.finRange cap).foldl (visitStep visit) (t, [])

theorem foldl_visitStep : ∀ (l : List (Fin cap)) (_ : l.Nodup) (t : Fin cap → σ) (out : List ω),
    l.foldl (visitStep visit) (t, out) = ((fun i => if i ∈ l then (visit (t i)).1 else t i),
      out ++ l.flatMap fun i => (visit (t i)).2)
  | [], _, t, out => by simp
  | i :: l, hl, t, out => by
    obtain ⟨hi, hl⟩ := List.nodup_cons.mp hl
    rw [List.foldl_cons, visitStep, foldl_visitStep l hl]
    have hlater : ∀ j ∈ l, Function.update t i (visit (t i)).1 j = t j := fun j hj =>
      Function.update_of_ne (fun h : j = i => hi (h ▸ hj)) _ t
    refine Prod.ext (funext fun j => ?_) ?_
    · rcases eq_or_ne j i with rfl | hji
      · simp [hi]
      · simp [hji]
    · change out ++ (visit (t i)).2 ++ _ = _
      rw [List.flatMap_cons, List.append_assoc,
        List.flatMap_congr fun j hj => by rw [hlater j hj]]

theorem sweep_fst (t : Fin cap → σ) : (sweep visit t).1 = fun i => (visit (t i)).1 := by
  rw [sweep, foldl_visitStep visit _ (List.nodup_finRange cap)]
  exact funext fun i => if_pos (List.mem_finRange i)

theorem sweep_snd (t : Fin cap → σ) :
    (sweep visit t).2 = (List.finRange cap).flatMap fun i => (visit (t i)).2 := by
  rw [sweep, foldl_visitStep visit _ (List.nodup_finRange cap)]
  rfl

/-! ## The search loops -/

variable [DecidableEq κ] (inUse key)

/-- The first slot in use under a key. -/
def find (t : Fin cap → σ) (k : κ) : Option (Fin cap) :=
  (List.finRange cap).find? fun i => inUse (t i) && key (t i) == k

/-- The first free slot. -/
def free (t : Fin cap → σ) : Option (Fin cap) := (List.finRange cap).find? fun i => !inUse (t i)

/-- The slot a key is in use under. -/
def lookup (t : Fin cap → σ) (k : κ) : Option σ := (find inUse key t k).map t

/-- The keys in use. -/
def keys (t : Fin cap → σ) : Finset κ :=
  (Finset.univ.filter fun i => inUse (t i)).image fun i => key (t i)

variable {inUse key}

theorem find_eq_some (h : find inUse key t k = some i) : inUse (t i) = true ∧ key (t i) = k := by
  simpa using List.find?_some h

theorem find_eq_none_iff : find inUse key t k = none ↔ ∀ i, inUse (t i) = true → key (t i) ≠ k := by
  simp [find, List.find?_eq_none]

/-- **With distinct keys the first slot in use under a key is the only one.** -/
theorem find_eq_some_iff (hd : Distinct inUse key t) :
    find inUse key t k = some i ↔ inUse (t i) = true ∧ key (t i) = k := by
  refine ⟨find_eq_some, fun ⟨hi, hk⟩ => ?_⟩
  cases h : find inUse key t k with
  | none => exact absurd hk (find_eq_none_iff.mp h i hi)
  | some j =>
    obtain ⟨hj, hjk⟩ := find_eq_some h
    exact congrArg some (hd j i hj hi (hjk.trans hk.symm))

theorem free_eq_some (h : free inUse t = some i) : inUse (t i) = false := by
  simpa using List.find?_some h

theorem free_eq_none_iff : free inUse t = none ↔ ∀ i, inUse (t i) = true := by
  simp [free, List.find?_eq_none]

theorem mem_keys : k ∈ keys inUse key t ↔ ∃ i, inUse (t i) = true ∧ key (t i) = k := by
  simp [keys]

theorem isSome_lookup_iff : (lookup inUse key t k).isSome ↔ k ∈ keys inUse key t := by
  rw [mem_keys, lookup, Option.isSome_map, ← not_iff_not, Option.not_isSome_iff_eq_none,
    find_eq_none_iff]
  push Not
  rfl

/-- **With distinct keys a lookup is a membership.** -/
theorem lookup_eq_some_iff (hd : Distinct inUse key t) :
    lookup inUse key t k = some v ↔ ∃ i, t i = v ∧ inUse v = true ∧ key v = k := by
  rw [lookup, Option.map_eq_some_iff]
  constructor
  · rintro ⟨i, hi, rfl⟩
    exact ⟨i, rfl, find_eq_some hi⟩
  · rintro ⟨i, rfl, hi⟩
    exact ⟨i, (find_eq_some_iff hd).mpr hi, rfl⟩

/-! ## Stores into one slot -/

/-- **A store of a slot in use is an insertion or an overwrite** — the slot it takes was free, or in
use under the same key. -/
theorem lookup_update (hd : Distinct inUse key t) (hx : inUse x = true)
    (hold : inUse (t i) = true → key (t i) = key x)
    (hfresh : ∀ j, j ≠ i → inUse (t j) = true → key (t j) ≠ key x) :
    lookup inUse key (Function.update t i x) k
      = if k = key x then some x else lookup inUse key t k := by
  have hd' := distinct_update (x := x) hd fun j hj hi _ => hfresh j hj hi
  split
  · rename_i hk
    exact (lookup_eq_some_iff hd').mpr ⟨i, Function.update_self i x t, hx, hk.symm⟩
  · rename_i hk
    refine Option.ext fun v => ?_
    rw [lookup_eq_some_iff hd', lookup_eq_some_iff hd]
    constructor
    · rintro ⟨j, hj, hv, hvk⟩
      rcases eq_or_ne j i with rfl | hji
      · rw [Function.update_self] at hj
        exact absurd (hvk.symm.trans (congrArg key hj.symm)) hk
      · rw [Function.update_of_ne hji] at hj
        exact ⟨j, hj, hv, hvk⟩
    · rintro ⟨j, rfl, hv, hvk⟩
      rcases eq_or_ne j i with rfl | hji
      · exact absurd (hvk.symm.trans (hold hv)) hk
      · exact ⟨j, Function.update_of_ne hji x t, hv, hvk⟩

/-- **Taking a slot out of use is a deletion.** -/
theorem lookup_update_of_not_inUse (hd : Distinct inUse key t) (hi : inUse (t i) = true)
    (hx : inUse x = false) :
    lookup inUse key (Function.update t i x) k
      = if k = key (t i) then none else lookup inUse key t k := by
  have hd' := distinct_update (i := i) (x := x) hd fun j _ _ h => absurd h (by simp [hx])
  refine Option.ext fun v => ?_
  rw [lookup_eq_some_iff hd']
  have hne : ∀ j, Function.update t i x j = v → inUse v = true → j ≠ i := by
    rintro j hj hv rfl
    rw [Function.update_self] at hj
    exact absurd (hj ▸ hv) (by simp [hx])
  split
  · rename_i hk
    refine iff_of_false ?_ (by simp)
    rintro ⟨j, hj, hv, hvk⟩
    have hji := hne j hj hv
    rw [Function.update_of_ne hji] at hj
    exact hji (hd j i (hj ▸ hv) hi ((congrArg key hj).trans (hvk.trans hk)))
  · rename_i hk
    rw [lookup_eq_some_iff hd]
    constructor
    · rintro ⟨j, hj, hv, hvk⟩
      have hji := hne j hj hv
      rw [Function.update_of_ne hji] at hj
      exact ⟨j, hj, hv, hvk⟩
    · rintro ⟨j, rfl, hv, hvk⟩
      refine ⟨j, Function.update_of_ne ?_ x t, hv, hvk⟩
      rintro rfl
      exact hk hvk.symm

/-- **A release restricts the map to the kept keys.** -/
theorem lookup_release (hoff : ∀ x, inUse (off x) = false) (hd : Distinct inUse key t) :
    lookup inUse key (release inUse key off keep t) k
      = if keep k then lookup inUse key t k else none := by
  refine Option.ext fun v => ?_
  rw [lookup_eq_some_iff (distinct_release hoff hd)]
  have hiff : ∀ i, (release inUse key off keep t i = v ∧ inUse v = true
      ∧ key v = k) ↔ (t i = v ∧ inUse v = true ∧ key v = k) ∧ keep k = true := by
    intro i
    constructor
    · rintro ⟨hv, hu, rfl⟩
      obtain ⟨h1, h2, h3⟩ := (release_inUse_iff hoff).mp ⟨hv, hu⟩
      exact ⟨⟨h1, h2, rfl⟩, h3⟩
    · rintro ⟨⟨hv, hu, rfl⟩, hk⟩
      obtain ⟨h1, h2⟩ := (release_inUse_iff hoff).mpr ⟨hv, hu, hk⟩
      exact ⟨h1, h2, rfl⟩
  rw [exists_congr hiff]
  split
  · rename_i hk
    rw [lookup_eq_some_iff hd]
    exact exists_congr fun i => and_iff_left hk
  · rename_i hk
    exact iff_of_false (fun ⟨_, _, hk'⟩ => hk hk') (by simp)

/-! ## Capacity -/

/-- A full table with distinct keys has as many keys as slots. -/
theorem card_keys_of_full (hd : Distinct inUse key t) (hfull : ∀ i, inUse (t i) = true) :
    (keys inUse key t).card = cap := by
  rw [keys, Finset.filter_true_of_mem fun i _ => hfull i,
    Finset.card_image_of_injective _ fun a b hab => hd a b (hfull a) (hfull b) hab]
  simp

theorem card_keys_le (t : Fin cap → σ) : (keys inUse key t).card ≤ cap :=
  Finset.card_image_le.trans ((Finset.card_filter_le _ _).trans_eq (by simp))

/-- A free slot is room for another key. -/
theorem card_keys_lt_of_free (hfree : free inUse t = some i) : (keys inUse key t).card < cap := by
  have hlt : (Finset.univ.filter fun j => inUse (t j)).card
      < (Finset.univ : Finset (Fin cap)).card :=
    Finset.card_lt_card (Finset.filter_ssubset.mpr
      ⟨i, Finset.mem_univ i, by simp [free_eq_some hfree]⟩)
  exact Finset.card_image_le.trans_lt (hlt.trans_eq (by simp))

/-- **A table whose keys come from at most `cap` has a free slot for a missing one.** -/
theorem exists_free (hd : Distinct inUse key t) {K : Finset κ} (hK : K.card ≤ cap)
    (hsub : keys inUse key t ⊆ K) (hk : k ∈ K) (hnew : k ∉ keys inUse key t) :
    ∃ i, free inUse t = some i := by
  refine Option.ne_none_iff_exists'.mp fun hnone => ?_
  have hcard := card_keys_of_full hd (free_eq_none_iff.mp hnone)
  have hlt := Finset.card_lt_card (Finset.ssubset_iff_subset_ne.mpr
    ⟨hsub, fun heq => hnew (heq ▸ hk)⟩)
  omega

end SlotTable
