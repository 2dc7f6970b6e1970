import Mathlib

/-!
# Machinery/Buffer — a C array of fixed capacity with a count of the slots in use

    T slots[cap];  uint32_t len;        the content is slots[0..len)

A `Buffer` keeps every slot, so what lies past the count is still there, and carries `len ≤ cap` as
a field.  Each operation is the array loop a C program runs (`push`, the in-place compaction
`retain`, `memcpy` at an offset, a resize with a fill), and its lemma says what the loop does to
the content `toList`.
-/

/-- An array of `cap` slots of which the first `len` are in use. -/
structure Buffer (α : Type*) (cap : ℕ) where
  slots : Fin cap → α
  len : ℕ
  len_le : len ≤ cap

namespace Buffer

variable {α : Type*} {cap : ℕ}

/-- The slots, with `x` stored at index `i`; an index past the capacity stores nothing. -/
def store (slots : Fin cap → α) (i : ℕ) (x : α) : Fin cap → α :=
  fun j => if (j : ℕ) = i then x else slots j

theorem store_of_ne {slots : Fin cap → α} {i : ℕ} {x : α} {j : Fin cap} (h : (j : ℕ) ≠ i) :
    store slots i x j = slots j := if_neg h

@[simp] theorem store_self {slots : Fin cap → α} {x : α} (j : Fin cap) :
    store slots (j : ℕ) x j = x := if_pos rfl

/-! ## The content -/

/-- The `i`-th element in use. -/
def get (b : Buffer α cap) (i : ℕ) (h : i < b.len) : α := b.slots ⟨i, h.trans_le b.len_le⟩

/-- **The content**: the elements in use, in order. -/
def toList (b : Buffer α cap) : List α := List.ofFn fun i : Fin b.len => b.get i i.isLt

@[simp] theorem length_toList (b : Buffer α cap) : b.toList.length = b.len := List.length_ofFn

theorem getElem_toList (b : Buffer α cap) (i : ℕ) (h : i < b.toList.length) :
    b.toList[i] = b.get i (by simpa using h) := by
  simp only [toList, List.getElem_ofFn]

/-- A buffer's content is the list `l` when their lengths agree and the slots read `l`. -/
theorem toList_eq_of_get {b : Buffer α cap} {l : List α} (hlen : b.len = l.length)
    (h : ∀ (i : ℕ) (hb : i < b.len) (hl : i < l.length), b.get i hb = l[i]) : b.toList = l :=
  List.ext_getElem (by simpa using hlen) fun i h1 h2 => by
    rw [getElem_toList]
    exact h i _ h2

/-- The content of two buffers with one count agrees as soon as the slots below it do. -/
theorem toList_congr {b c : Buffer α cap} (hlen : b.len = c.len)
    (h : ∀ j : Fin cap, (j : ℕ) < b.len → b.slots j = c.slots j) : b.toList = c.toList :=
  toList_eq_of_get (by simpa using hlen) fun i hb hc => by
    rw [getElem_toList]
    exact h ⟨i, _⟩ hb

theorem slots_eq_of_toList_eq {b c : Buffer α cap} (h : b.toList = c.toList) {j : Fin cap}
    (hj : (j : ℕ) < b.len) : b.slots j = c.slots j := by
  have hlen : b.len = c.len := by rw [← length_toList, h, length_toList]
  have hb := getElem_toList b j (by simpa using hj)
  have hc := getElem_toList c j (by simpa [← hlen] using hj)
  simp only [h] at hb
  exact hb.symm.trans hc

theorem toList_eq_nil_iff {b : Buffer α cap} : b.toList = [] ↔ b.len = 0 := by
  rw [← List.length_eq_zero_iff, length_toList]

/-- The first element in use. -/
theorem head?_toList (b : Buffer α cap) (h : 0 < b.len) : b.toList.head? = some (b.get 0 h) := by
  rw [List.head?_eq_getElem?, List.getElem?_eq_getElem (by simpa using h), getElem_toList]

/-- The empty buffer over given slots. -/
def empty (slots : Fin cap → α) : Buffer α cap := ⟨slots, 0, Nat.zero_le _⟩

@[simp] theorem toList_empty (slots : Fin cap → α) : (empty slots).toList = [] := rfl

/-- Forget the content: the count goes to zero and the slots stay. -/
def clear (b : Buffer α cap) : Buffer α cap := { b with len := 0, len_le := Nat.zero_le _ }

@[simp] theorem len_clear (b : Buffer α cap) : b.clear.len = 0 := rfl

@[simp] theorem toList_clear (b : Buffer α cap) : b.clear.toList = [] := rfl

/-- Store at one index and leave the count. -/
def put (b : Buffer α cap) (i : ℕ) (x : α) : Buffer α cap := { b with slots := store b.slots i x }

@[simp] theorem len_put (b : Buffer α cap) (i : ℕ) (x : α) : (b.put i x).len = b.len := rfl

/-- Use exactly the first `n` slots. -/
def setLen (b : Buffer α cap) (n : ℕ) (h : n ≤ cap) : Buffer α cap :=
  { b with len := n, len_le := h }

@[simp] theorem len_setLen (b : Buffer α cap) (n : ℕ) (h : n ≤ cap) : (b.setLen n h).len = n := rfl

theorem setLen_congr {b c : Buffer α cap} {m n : ℕ} (hbc : b = c) (hmn : m = n) (hm : m ≤ cap)
    (hn : n ≤ cap) : b.setLen m hm = c.setLen n hn := by
  subst hbc hmn
  rfl

/-! ## Appending one element -/

/-- `slots[len++] = x`, with the guard the caller has checked. -/
def push (b : Buffer α cap) (x : α) (h : b.len < cap) : Buffer α cap :=
  ⟨store b.slots b.len x, b.len + 1, h⟩

@[simp] theorem len_push (b : Buffer α cap) (x : α) (h : b.len < cap) :
    (b.push x h).len = b.len + 1 := rfl

@[simp] theorem toList_push (b : Buffer α cap) (x : α) (h : b.len < cap) :
    (b.push x h).toList = b.toList ++ [x] := by
  refine toList_eq_of_get (by simp) fun j hb _ => ?_
  rcases Nat.lt_succ_iff_lt_or_eq.mp hb with hlt | rfl
  · rw [List.getElem_append_left (by simpa using hlt), getElem_toList]
    exact store_of_ne hlt.ne
  · rw [List.getElem_append_right (by simp)]
    simp only [length_toList, Nat.sub_self, List.getElem_cons_zero]
    exact if_pos rfl

/-! ## In-place compaction

    kept = 0;  for (i = 0; i < len; ++i) if (keep(slots[i])) slots[kept++] = slots[i];  len = kept;

Reading runs ahead of writing (`kept ≤ i`), so every slot still holds its first element when it is
read. -/

/-- One pass of the compaction loop, at index `i`. -/
def retainStep (keep : α → Bool) (s : (Fin cap → α) × ℕ) (i : Fin cap) : (Fin cap → α) × ℕ :=
  if keep (s.1 i) then (store s.1 s.2 (s.1 i), s.2 + 1) else s

/-- The compaction loop over the first `n` indices. -/
def retainLoop (keep : α → Bool) (slots : Fin cap → α) (n : ℕ) (h : n ≤ cap) :
    (Fin cap → α) × ℕ :=
  (List.finRange n).foldl (fun s i => retainStep keep s (i.castLE h)) (slots, 0)

theorem retainLoop_succ (keep : α → Bool) (slots : Fin cap → α) (n : ℕ) (h : n + 1 ≤ cap) :
    retainLoop keep slots (n + 1) h
      = retainStep keep (retainLoop keep slots n (Nat.le_of_succ_le h)) ⟨n, h⟩ := by
  rw [retainLoop, List.finRange_succ_last, List.foldl_append, List.foldl_map]
  rfl

/-- The loop's invariant after `n` indices: `kept ≤ n`, the slots from `n` on are untouched, and
the first `kept` slots hold the elements kept so far. -/
theorem retainLoop_spec (keep : α → Bool) (slots : Fin cap → α) : ∀ (n : ℕ) (h : n ≤ cap),
    (retainLoop keep slots n h).2 ≤ n ∧
    (∀ j : Fin cap, n ≤ (j : ℕ) → (retainLoop keep slots n h).1 j = slots j) ∧
    ∀ hk : (retainLoop keep slots n h).2 ≤ cap,
      toList ⟨(retainLoop keep slots n h).1, (retainLoop keep slots n h).2, hk⟩
        = (toList ⟨slots, n, h⟩).filter keep
  | 0, h => ⟨le_rfl, fun _ _ => rfl, fun _ => rfl⟩
  | n + 1, h => by
    obtain ⟨hle, huntouched, hcontent⟩ := retainLoop_spec keep slots n (Nat.le_of_succ_le h)
    have hread := huntouched ⟨n, h⟩ le_rfl
    have hkept : (retainLoop keep slots n (Nat.le_of_succ_le h)).2 ≤ cap := by omega
    have hpush : toList ⟨slots, n + 1, h⟩ = toList ⟨slots, n, Nat.le_of_succ_le h⟩
        ++ [slots ⟨n, h⟩] := by
      refine toList_eq_of_get (by simp) fun j hb _ => ?_
      rcases Nat.lt_succ_iff_lt_or_eq.mp hb with hlt | rfl
      · rw [List.getElem_append_left (by simpa using hlt), getElem_toList]
        rfl
      · rw [List.getElem_append_right (by simp)]
        simp only [length_toList, Nat.sub_self, List.getElem_cons_zero]
        rfl
    rw [retainLoop_succ, retainStep, hread, hpush, List.filter_append]
    by_cases hp : keep (slots ⟨n, h⟩)
    · simp only [hp, if_true, List.filter_cons, List.filter_nil]
      refine ⟨by omega, fun j hj => ?_, fun hk => ?_⟩
      · rw [store_of_ne (by omega)]
        exact huntouched j (by omega)
      · rw [← hcontent hkept]
        exact toList_push ⟨_, _, hkept⟩ _ (by simpa using hk)
    · simp only [hp, Bool.false_eq_true, if_false, List.filter_cons, List.filter_nil,
        List.append_nil]
      exact ⟨by omega, fun j hj => huntouched j (by omega), hcontent⟩

/-- Keep the elements satisfying `keep`, compacted in place. -/
def retain (keep : α → Bool) (b : Buffer α cap) : Buffer α cap where
  slots := (retainLoop keep b.slots b.len b.len_le).1
  len := (retainLoop keep b.slots b.len b.len_le).2
  len_le := (retainLoop_spec keep b.slots b.len b.len_le).1.trans b.len_le

/-- **The compaction loop filters**: the kept elements stay, in their order, each once. -/
@[simp] theorem toList_retain (keep : α → Bool) (b : Buffer α cap) :
    (b.retain keep).toList = b.toList.filter keep :=
  (retainLoop_spec keep b.slots b.len b.len_le).2.2 _

/-- Whether some element in use satisfies `p` — the C search loop. -/
def any (p : α → Bool) (b : Buffer α cap) : Bool := b.toList.any p

/-! ## Copying a block in, copying a block out -/

/-- `memcpy(slots + start, xs, n)`: the slots in `[start, start + n)` take the block. -/
def storeBlock (slots : Fin cap → α) (start : ℕ) (xs : List α) : Fin cap → α :=
  fun j => if start ≤ (j : ℕ) then xs[(j : ℕ) - start]?.getD (slots j) else slots j

theorem storeBlock_of_lt {slots : Fin cap → α} {start : ℕ} {xs : List α} {j : Fin cap}
    (h : (j : ℕ) < start) : storeBlock slots start xs j = slots j := if_neg (by omega)

theorem storeBlock_of_ge {slots : Fin cap → α} {start : ℕ} {xs : List α} {j : Fin cap}
    (h : start + xs.length ≤ (j : ℕ)) : storeBlock slots start xs j = slots j := by
  rw [storeBlock, if_pos (by omega), List.getElem?_eq_none (by omega)]
  rfl

theorem storeBlock_of_mem {slots : Fin cap → α} {start : ℕ} {xs : List α} {j : Fin cap}
    (h : start ≤ (j : ℕ)) (hlt : (j : ℕ) - start < xs.length) :
    storeBlock slots start xs j = xs[(j : ℕ) - start] := by
  rw [storeBlock, if_pos h, List.getElem?_eq_getElem hlt]
  rfl

theorem storeBlock_store (slots : Fin cap → α) (i : ℕ) (x : α) (xs : List α) :
    storeBlock (store slots i x) (i + 1) xs = storeBlock slots i (x :: xs) := by
  funext j
  rcases lt_trichotomy (j : ℕ) i with hlt | heq | hgt
  · rw [storeBlock_of_lt (by omega), storeBlock_of_lt hlt, store_of_ne hlt.ne]
  · rw [storeBlock_of_lt (by omega), storeBlock_of_mem heq.ge (by simp [heq])]
    simp [store, heq]
  · rw [storeBlock, storeBlock, if_pos (Nat.succ_le_of_lt hgt), if_pos hgt.le, store_of_ne hgt.ne',
      show (j : ℕ) - i = (j - (i + 1)) + 1 by omega, List.getElem?_cons_succ]

/-- Copy a block in at `start` and leave the count. -/
def putBlock (b : Buffer α cap) (start : ℕ) (xs : List α) : Buffer α cap :=
  { b with slots := storeBlock b.slots start xs }

@[simp] theorem len_putBlock (b : Buffer α cap) (start : ℕ) (xs : List α) :
    (b.putBlock start xs).len = b.len := rfl

theorem putBlock_nil (b : Buffer α cap) (start : ℕ) : b.putBlock start [] = b := by
  have hslots : storeBlock b.slots start [] = b.slots := funext fun j => by simp [storeBlock]
  rw [putBlock, hslots]

theorem putBlock_put (b : Buffer α cap) (i : ℕ) (x : α) (xs : List α) :
    (b.put i x).putBlock (i + 1) xs = b.putBlock i (x :: xs) := by
  rw [putBlock, putBlock, put, storeBlock_store]

/-- **A block over the start overwrites the elements it reaches**, and only those. -/
theorem toList_putBlock_zero (b : Buffer α cap) (xs : List α) :
    (b.putBlock 0 xs).toList = xs.take b.len ++ b.toList.drop xs.length := by
  refine toList_eq_of_get (by simp; omega) fun j hb _ => ?_
  rcases lt_or_ge j xs.length with hlt | hge
  · rw [List.getElem_append_left (by simp at hb ⊢; omega), List.getElem_take]
    exact storeBlock_of_mem (Nat.zero_le _) hlt
  · rw [List.getElem_append_right (by simp; omega), List.getElem_drop, getElem_toList]
    have hj : xs.length + (j - (xs.take b.len).length) = j := by
      rw [List.length_take]
      simp only [len_putBlock] at hb
      omega
    simp only [hj]
    exact storeBlock_of_ge ((Nat.zero_add _).le.trans hge)

/-- A block over the start, counted in full, is the content. -/
theorem toList_setLen_putBlock_zero (b : Buffer α cap) (xs : List α) (h : xs.length ≤ cap) :
    ((b.putBlock 0 xs).setLen xs.length h).toList = xs :=
  toList_eq_of_get rfl fun _ _ hl => storeBlock_of_mem (Nat.zero_le _) hl

/-- Copy a block in at `start`; the count grows to cover the block if it must. -/
def splice (b : Buffer α cap) (start : ℕ) (xs : List α) (h : start + xs.length ≤ cap) :
    Buffer α cap where
  slots := storeBlock b.slots start xs
  len := if start + xs.length > b.len then start + xs.length else b.len
  len_le := by split <;> [exact h; exact b.len_le]

theorem len_splice (b : Buffer α cap) (start : ℕ) (xs : List α) (h : start + xs.length ≤ cap) :
    (b.splice start xs h).len = max b.len (start + xs.length) := by
  simp only [splice]
  split <;> omega

/-- **A copy at or below the count splices the content.** -/
theorem toList_splice (b : Buffer α cap) (start : ℕ) (xs : List α) (h : start + xs.length ≤ cap)
    (hs : start ≤ b.len) : (b.splice start xs h).toList
      = b.toList.take start ++ xs ++ b.toList.drop (start + xs.length) := by
  refine toList_eq_of_get (by rw [len_splice]; simp; omega) fun j hb hl => ?_
  rcases lt_or_ge j start with hlt | hge
  · rw [List.getElem_append_left (by simp; omega), List.getElem_append_left (by simp; omega),
      List.getElem_take, getElem_toList]
    exact storeBlock_of_lt hlt
  rcases lt_or_ge (j - start) xs.length with hmid | htail
  · rw [List.getElem_append_left (by simp; omega), List.getElem_append_right (by simp; omega)]
    simp only [List.length_take, length_toList, min_eq_left hs]
    exact storeBlock_of_mem hge hmid
  · rw [List.getElem_append_right (by simp; omega), List.getElem_drop, getElem_toList]
    simp only [List.length_append, List.length_take, length_toList, min_eq_left hs]
    refine (storeBlock_of_ge (j := ⟨j, _⟩) (by simp; omega)).trans ?_
    exact congrArg b.slots (Fin.ext (by simp; omega))

/-- Writing a block where the content ends appends it. -/
theorem toList_splice_end (b : Buffer α cap) (xs : List α) (h : b.len + xs.length ≤ cap) :
    (b.splice b.len xs h).toList = b.toList ++ xs := by
  rw [toList_splice _ _ _ _ le_rfl, List.take_of_length_le (by simp),
    List.drop_eq_nil_of_le (by simp), List.append_nil]

/-- Resize to `n` elements; the slots a larger count uncovers are filled first. -/
def resize (b : Buffer α cap) (n : ℕ) (fill : α) (h : n ≤ cap) : Buffer α cap where
  slots := if n > b.len then storeBlock b.slots b.len (List.replicate (n - b.len) fill) else b.slots
  len := n
  len_le := h

@[simp] theorem len_resize (b : Buffer α cap) (n : ℕ) (fill : α) (h : n ≤ cap) :
    (b.resize n fill h).len = n := rfl

/-- **A resize truncates the content, or extends it with the fill.** -/
theorem toList_resize (b : Buffer α cap) (n : ℕ) (fill : α) (h : n ≤ cap) :
    (b.resize n fill h).toList = b.toList.take n ++ List.replicate (n - b.len) fill := by
  refine toList_eq_of_get (by simp; omega) fun j hb hl => ?_
  rw [len_resize] at hb
  by_cases hgrow : n > b.len
  · refine (congrFun (if_pos hgrow) _).trans ?_
    rcases lt_or_ge j b.len with hlt | hge
    · rw [List.getElem_append_left (by simp; omega), List.getElem_take, getElem_toList]
      exact storeBlock_of_lt hlt
    · rw [List.getElem_append_right (by simp; omega), List.getElem_replicate]
      refine (storeBlock_of_mem hge (by simp; omega)).trans ?_
      rw [List.getElem_replicate]
  · refine (congrFun (if_neg hgrow) _).trans ?_
    rw [List.getElem_append_left (by simp; omega), List.getElem_take, getElem_toList]
    rfl

end Buffer
