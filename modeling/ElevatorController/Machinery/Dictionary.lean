import Mathlib

/-!
# Machinery/Dictionary — a dictionary that keeps the order of insertion

    set 2 c  [(1, a), (2, b)] = [(1, a), (2, c)]          set 3 c  [(1, a), (2, b)] = [… , (3, c)]

A list of keys with their values, looked up and changed at the first of a key: a key that is there
keeps its place, a new one goes to the end.
-/

namespace Dictionary

variable {κ α : Type} [DecidableEq κ]

/-- The value of a key. -/
def get (k : κ) : List (κ × α) → Option α
  | [] => none
  | (k', v) :: d => if k' = k then some v else get k d

/-- `d[k] = v`. -/
def set (k : κ) (v : α) : List (κ × α) → List (κ × α)
  | [] => [(k, v)]
  | (k', v') :: d => if k' = k then (k, v) :: d else (k', v') :: set k v d

/-- Change the value of a key, if it is there. -/
def modify (k : κ) (f : α → α) : List (κ × α) → List (κ × α)
  | [] => []
  | (k', v) :: d => if k' = k then (k', f v) :: d else (k', v) :: modify k f d

/-- `d.setdefault(k, v)`, for what it does to the dictionary. -/
def setDefault (k : κ) (v : α) (d : List (κ × α)) : List (κ × α) :=
  if (get k d).isSome then d else set k v d

variable {k k' : κ} {v : α} {d : List (κ × α)}

theorem get_set : get k' (set k v d) = if k = k' then some v else get k' d := by
  induction d with
  | nil => rfl
  | cons x d ih =>
    obtain ⟨j, w⟩ := x
    rw [set]
    split
    · rename_i hj
      subst hj
      rw [get, get]
      split <;> rfl
    · rename_i hj
      rw [get, get, ih]
      by_cases hjk : j = k'
      · subst hjk
        rw [if_pos rfl, if_pos rfl, if_neg (Ne.symm hj)]
      · rw [if_neg hjk, if_neg hjk]

theorem get_modify (f : α → α) :
    get k' (modify k f d) = if k = k' then (get k d).map f else get k' d := by
  induction d with
  | nil => exact (ite_self none).symm
  | cons x d ih =>
    obtain ⟨j, w⟩ := x
    rw [modify]
    by_cases hjk : j = k
    · subst hjk
      rw [if_pos rfl, get, get, get, if_pos rfl]
      split <;> rfl
    · rw [if_neg hjk, get, get, get, ih, if_neg hjk]
      by_cases hj : j = k'
      · subst hj
        rw [if_pos rfl, if_pos rfl, if_neg (Ne.symm hjk)]
      · rw [if_neg hj, if_neg hj]

theorem get_eq_none_iff : get k d = none ↔ k ∉ d.map Prod.fst := by
  induction d with
  | nil => exact iff_of_true rfl List.not_mem_nil
  | cons x d ih =>
    obtain ⟨j, w⟩ := x
    rw [get, List.map_cons, List.mem_cons, not_or]
    by_cases hj : j = k
    · rw [if_pos hj]
      exact iff_of_false (by rintro ⟨⟩) fun h => h.1 hj.symm
    · rw [if_neg hj, ih]
      exact ⟨fun h => ⟨Ne.symm hj, h⟩, fun h => h.2⟩

theorem mem_of_get (h : get k d = some v) : (k, v) ∈ d := by
  induction d with
  | nil => cases h
  | cons x d ih =>
    obtain ⟨j, w⟩ := x
    rw [get] at h
    split at h
    · rename_i hj
      obtain rfl := Option.some.inj h
      rw [hj]
      exact List.mem_cons_self
    · exact List.mem_cons_of_mem _ (ih h)

/-- What is there after setting was there, or is what has been set. -/
theorem mem_set {x : κ × α} (h : x ∈ set k v d) : x = (k, v) ∨ x ∈ d := by
  induction d with
  | nil => exact Or.inl (List.mem_singleton.mp h)
  | cons y d ih =>
    obtain ⟨j, w⟩ := y
    rw [set] at h
    split at h
    · exact (List.mem_cons.mp h).imp_right (List.mem_cons_of_mem _)
    · obtain rfl | h := List.mem_cons.mp h
      · exact Or.inr List.mem_cons_self
      · exact (ih h).imp_right (List.mem_cons_of_mem _)

/-- The values of a dictionary changed, each with its key. -/
theorem get_map {β : Type} (f : κ → α → β) (k : κ) (d : List (κ × α)) :
    get k (d.map fun x => (x.1, f x.1 x.2)) = (get k d).map (f k) := by
  induction d with
  | nil => rfl
  | cons x d ih =>
    obtain ⟨j, w⟩ := x
    rw [List.map_cons, get, get, ih]
    split
    · rename_i hj
      rw [hj]
      rfl
    · rfl

theorem set_of_not_mem (h : k ∉ d.map Prod.fst) (v : α) : set k v d = d ++ [(k, v)] := by
  induction d with
  | nil => rfl
  | cons x d ih =>
    obtain ⟨j, w⟩ := x
    rw [List.map_cons, List.mem_cons, not_or] at h
    rw [set, if_neg (Ne.symm h.1), ih h.2, List.cons_append]

theorem setDefault_of_not_mem (h : k ∉ d.map Prod.fst) (v : α) :
    setDefault k v d = set k v d := by
  rw [setDefault, get_eq_none_iff.mpr h]
  rfl

/-- The value just set is the one that is changed. -/
@[simp] theorem modify_set (f : α → α) : modify k f (set k v d) = set k (f v) d := by
  induction d with
  | nil => exact if_pos rfl
  | cons x d ih =>
    obtain ⟨j, w⟩ := x
    rw [set, set]
    by_cases hj : j = k
    · rw [if_pos hj, if_pos hj, modify, if_pos rfl]
    · rw [if_neg hj, if_neg hj, modify, if_neg hj, ih]

/-- Setting keeps the keys apart. -/
theorem nodup_set (h : (d.map Prod.fst).Nodup) (k : κ) (v : α) :
    ((set k v d).map Prod.fst).Nodup := by
  have hkeys : (set k v d).map Prod.fst = d.map Prod.fst
      ∨ (k ∉ d.map Prod.fst ∧ (set k v d).map Prod.fst = d.map Prod.fst ++ [k]) := by
    clear h
    induction d with
    | nil => exact Or.inr ⟨List.not_mem_nil, rfl⟩
    | cons x d ih =>
      obtain ⟨j, w⟩ := x
      rw [set]
      by_cases hj : j = k
      · subst hj
        rw [if_pos rfl]
        exact Or.inl rfl
      · rw [if_neg hj]
        rcases ih with ih | ⟨hnot, ih⟩
        · exact Or.inl (congrArg (j :: ·) ih)
        · refine Or.inr ⟨?_, congrArg (j :: ·) ih⟩
          rw [List.map_cons, List.mem_cons, not_or]
          exact ⟨Ne.symm hj, hnot⟩
  rcases hkeys with hkeys | ⟨hnot, hkeys⟩
  · rwa [hkeys]
  · rw [hkeys]
    exact List.nodup_append.mpr ⟨h, List.nodup_singleton k, fun a ha b hb hab =>
      hnot (List.mem_singleton.mp hb ▸ hab ▸ ha)⟩

end Dictionary
