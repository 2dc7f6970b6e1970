import Mathlib

/-!
# Machinery/RoundRobin — sources polled in turn from a cursor

    sources   x₀   x₁   x₂   x₃         a turn polls from the cursor on, around the end, until a
                   ▲ cursor             source gives something; the next turn starts after that one

A poll gives at most one item and changes the source.  `offset` is how far ahead of the cursor a
source is, around the end.  `turn_cases` says all that a turn does to a source: it polls it, and
reports what the poll gives, or leaves it as it is and comes nearer.  So no source is left alone for
as many turns as there are sources, whatever the others give.
-/

namespace RoundRobin

variable {κ α : Type*}

section Definitions

variable (poll : κ → Option α × κ)

/-- Poll `k` sources from position `c` on, around the end, until one gives an item. -/
def scan (xs : List κ) (c : ℕ) : ℕ → Option (ℕ × α) × List κ
  | 0 => (none, xs)
  | k + 1 =>
    match xs[c % xs.length]? with
    | none => (none, xs)
    | some x =>
      match poll x with
      | (some a, x') => (some (c % xs.length, a), xs.set (c % xs.length) x')
      | (none, x') => scan (xs.set (c % xs.length) x') (c + 1) k

/-- One turn: the item and the source it came from, the sources, and the cursor. -/
def turn (xs : List κ) (c : ℕ) : Option (ℕ × α) × List κ × ℕ :=
  match scan poll xs c xs.length with
  | (some (i, a), xs') => (some (i, a), xs', (i + 1) % xs.length)
  | (none, xs') => (none, xs', (c + 1) % xs.length)

end Definitions

/-- How far ahead of the cursor a source is, around the end. -/
def offset (n c i : ℕ) : ℕ := if c ≤ i then i - c else i + n - c

section Offset

variable {n c i j : ℕ}

theorem offset_lt (hi : i < n) : offset n c i < n := by
  rw [offset]
  split <;> omega

@[simp] theorem offset_self : offset n c c = 0 := by
  rw [offset, if_pos le_rfl, Nat.sub_self]

theorem offset_pos (hc : c < n) (h : i ≠ c) : 0 < offset n c i := by
  rw [offset]
  split <;> omega

/-- The place after a place, around the end. -/
theorem succ_mod (c : ℕ) (hn : 0 < n) :
    (c + 1) % n = if c % n + 1 = n then 0 else c % n + 1 := by
  have hlt : c % n < n := Nat.mod_lt _ hn
  rw [Nat.add_mod, ← Nat.mod_add_mod, Nat.add_mod_mod]
  split
  · rename_i h
    rw [Nat.mod_mod, h, Nat.mod_self]
  · rw [Nat.mod_mod, Nat.mod_eq_of_lt (by omega)]

/-- One place on, every other source is one place nearer. -/
theorem offset_succ (hi : i < n) (h : i ≠ c % n) :
    offset n ((c + 1) % n) i + 1 = offset n (c % n) i := by
  have hlt : c % n < n := Nat.mod_lt _ (Nat.zero_lt_of_lt hi)
  rw [succ_mod c (Nat.zero_lt_of_lt hi), offset, offset]
  split_ifs <;> omega

/-- … and the one passed is the last. -/
theorem offset_succ_self (hn : 0 < n) : offset n ((c + 1) % n) (c % n) + 1 = n := by
  have hlt : c % n < n := Nat.mod_lt _ hn
  rw [succ_mod c hn, offset]
  split_ifs <;> omega

/-- After a turn that ended at a source, those behind it are nearer. -/
theorem offset_after (hc : c < n) (hi : i < n) (hj : j < n) (h : offset n c i < offset n c j) :
    offset n ((i + 1) % n) j < offset n c j := by
  rw [succ_mod i (Nat.zero_lt_of_lt hi), Nat.mod_eq_of_lt hi]
  unfold offset at h ⊢
  split_ifs at h ⊢ <;> omega

end Offset

/-! ## What a turn does to a source -/

variable (poll : κ → Option α × κ) {xs : List κ} {c j : ℕ} {x : κ}

theorem length_scan : ∀ (k : ℕ) (xs : List κ) (c : ℕ), (scan poll xs c k).2.length = xs.length
  | 0, _, _ => rfl
  | k + 1, xs, c => by
    rw [scan]
    split
    · rfl
    · split
      · exact List.length_set
      · rw [length_scan k, List.length_set]

section Scan

variable {poll} {k : ℕ} {x' : κ}

theorem scan_gives {a : α} (h : xs[c % xs.length]? = some x) (hpoll : poll x = (some a, x')) :
    scan poll xs c (k + 1) = (some (c % xs.length, a), xs.set (c % xs.length) x') := by
  rw [scan, h]
  simp only [hpoll]

theorem scan_passes (h : xs[c % xs.length]? = some x) (hpoll : poll x = (none, x')) :
    scan poll xs c (k + 1) = scan poll (xs.set (c % xs.length) x') (c + 1) k := by
  rw [scan, h]
  simp only [hpoll]

end Scan

/-- A scan polls a source within its reach, unless one before it gives something. -/
theorem scan_cases {k : ℕ} (hk : k ≤ xs.length) (hj : xs[j]? = some x) :
    (offset xs.length (c % xs.length) j < k ∧ (scan poll xs c k).2[j]? = some (poll x).2
        ∧ ∀ a, (scan poll xs c k).1 = some (j, a) ↔ (poll x).1 = some a)
      ∨ ((scan poll xs c k).2[j]? = some x
        ∧ ((scan poll xs c k).1 = none ∧ k ≤ offset xs.length (c % xs.length) j
          ∨ ∃ i a, (scan poll xs c k).1 = some (i, a) ∧ i < xs.length
            ∧ offset xs.length (c % xs.length) i < offset xs.length (c % xs.length) j)) := by
  induction k generalizing xs c x with
  | zero => exact Or.inr ⟨hj, Or.inl ⟨rfl, Nat.zero_le _⟩⟩
  | succ k ih =>
    have hjlt : j < xs.length := (List.getElem?_eq_some_iff.mp hj).1
    have hn : 0 < xs.length := Nat.zero_lt_of_lt hjlt
    have hlt : c % xs.length < xs.length := Nat.mod_lt _ hn
    have hcursor : xs[c % xs.length]? = some xs[c % xs.length] := List.getElem?_eq_getElem hlt
    have hlength : ∀ x', (xs.set (c % xs.length) x').length = xs.length := fun _ =>
      List.length_set
    cases hpoll : poll xs[c % xs.length] with
    | mk item x' =>
    have hk' : k ≤ (xs.set (c % xs.length) x').length := by
      rw [hlength]
      omega
    by_cases hcur : j = c % xs.length
    · -- the source at the cursor is polled, and a scan of `k` more does not come back to it
      subst hcur
      obtain rfl : xs[c % xs.length] = x := Option.some.inj (hcursor.symm.trans hj)
      refine Or.inl ⟨by rw [offset_self]; exact Nat.succ_pos k, ?_⟩
      cases item with
      | some a =>
        rw [scan_gives hcursor hpoll, hpoll]
        refine ⟨List.getElem?_set_self hlt, fun b => ?_⟩
        simp only [Option.some.injEq, Prod.mk.injEq, true_and]
      | none =>
        rw [scan_passes hcursor hpoll, hpoll]
        have hlast := offset_succ_self (c := c) hn
        have hset : (xs.set (c % xs.length) x')[c % xs.length]? = some x' :=
          List.getElem?_set_self hlt
        have hrest := ih (c := c + 1) hk' hset
        rw [hlength] at hrest
        rcases hrest with ⟨hreach, -⟩ | ⟨hstay, hrest⟩
        · omega
        · refine ⟨hstay, fun a => iff_of_false (fun hres => ?_) (by rintro ⟨⟩)⟩
          rcases hrest with ⟨hnone, -⟩ | ⟨i, b, hsome, -, hoff⟩
          · rw [hnone] at hres
            cases hres
          · rw [hsome] at hres
            obtain ⟨rfl, -⟩ := Prod.mk.inj (Option.some.inj hres)
            exact absurd hoff (lt_irrefl _)
    · -- another source: the scan ends before it, or goes on towards it
      have hpos : 0 < offset xs.length (c % xs.length) j := offset_pos hlt hcur
      have hother : (xs.set (c % xs.length) x')[j]? = some x := by
        rw [List.getElem?_set_ne (Ne.symm hcur)]
        exact hj
      cases item with
      | some a =>
        rw [scan_gives hcursor hpoll]
        exact Or.inr ⟨hother, Or.inr ⟨_, a, rfl, hlt, by rwa [offset_self]⟩⟩
      | none =>
        rw [scan_passes hcursor hpoll]
        have hnear := offset_succ (c := c) hjlt hcur
        have hrest := ih (c := c + 1) hk' hother
        rw [hlength] at hrest
        rcases hrest with ⟨hreach, hpolled⟩ | ⟨hstay, hrest⟩
        · exact Or.inl ⟨by omega, hpolled⟩
        · refine Or.inr ⟨hstay, ?_⟩
          rcases hrest with ⟨hnone, hfar⟩ | ⟨i, a, hsome, hi, hoff⟩
          · exact Or.inl ⟨hnone, by omega⟩
          · refine Or.inr ⟨i, a, hsome, hi, ?_⟩
            by_cases hicur : i = c % xs.length
            · rwa [hicur, offset_self]
            · have := offset_succ (c := c) hi hicur
              omega

theorem length_turn (xs : List κ) (c : ℕ) : (turn poll xs c).2.1.length = xs.length := by
  rw [turn]
  split
  all_goals
    rename_i h
    exact (congrArg (fun r => r.2.length) h).symm.trans (length_scan poll _ _ _)

theorem cursor_turn_lt (hn : 0 < xs.length) (c : ℕ) : (turn poll xs c).2.2 < xs.length := by
  rw [turn]
  split <;> exact Nat.mod_lt _ hn

/-- A scan that gives something gives it from a source of the list. -/
theorem index_lt_of_scan {a : α} : ∀ {k : ℕ} {xs : List κ} {c : ℕ},
    (scan poll xs c k).1 = some (j, a) → j < xs.length
  | 0, _, _, h => by cases h
  | k + 1, xs, c, h => by
    rw [scan] at h
    split at h
    · cases h
    · rename_i hcursor
      split at h
      · obtain ⟨rfl, -⟩ := Prod.mk.inj (Option.some.inj h)
        exact (List.getElem?_eq_some_iff.mp hcursor).1
      · have := index_lt_of_scan h
        rwa [List.length_set] at this

theorem index_lt_of_turn {a : α} (h : (turn poll xs c).1 = some (j, a)) : j < xs.length := by
  rw [turn] at h
  split at h
  · rename_i hscan
    obtain ⟨rfl, rfl⟩ := Prod.mk.inj (Option.some.inj h)
    exact index_lt_of_scan poll (congrArg Prod.fst hscan)
  · cases h

/-- **A turn polls a source and reports what the poll gives, or leaves it and comes nearer.** -/
theorem turn_cases (hc : c < xs.length) (hj : xs[j]? = some x) :
    ((turn poll xs c).2.1[j]? = some (poll x).2
        ∧ ∀ a, (turn poll xs c).1 = some (j, a) ↔ (poll x).1 = some a)
      ∨ ((turn poll xs c).2.1[j]? = some x ∧ (∀ a, (turn poll xs c).1 ≠ some (j, a))
        ∧ offset xs.length (turn poll xs c).2.2 j < offset xs.length c j) := by
  have hjlt : j < xs.length := (List.getElem?_eq_some_iff.mp hj).1
  have hscan := scan_cases poll (c := c) (le_refl xs.length) hj
  rw [Nat.mod_eq_of_lt hc] at hscan
  rw [turn]
  rcases hscan with ⟨-, hpolled, hiff⟩ | ⟨hstay, ⟨-, hfar⟩ | ⟨i, a, hsome, hi, hoff⟩⟩
  · left
    split
    all_goals
      rename_i h
      rw [h] at hpolled hiff
      exact ⟨hpolled, hiff⟩
  · exact absurd (offset_lt hjlt) (not_lt.mpr hfar)
  · right
    split
    · rename_i i' a' xs' h
      rw [h] at hstay hsome
      obtain ⟨rfl, rfl⟩ := Prod.mk.inj (Option.some.inj hsome)
      refine ⟨hstay, fun b hb => ?_, offset_after hc hi hjlt hoff⟩
      obtain ⟨rfl, -⟩ := Prod.mk.inj (Option.some.inj hb)
      exact absurd hoff (lt_irrefl _)
    · rename_i h
      rw [h] at hsome
      cases hsome

/-- What a turn gives, a source gives. -/
theorem turn_eq_some {a : α} (hc : c < xs.length) (h : (turn poll xs c).1 = some (j, a)) :
    ∃ x, xs[j]? = some x ∧ (poll x).1 = some a := by
  cases hj : xs[j]? with
  | some x =>
    rcases turn_cases poll hc hj with ⟨-, hiff⟩ | ⟨-, hnot, -⟩
    · exact ⟨x, rfl, (hiff a).mp h⟩
    · exact absurd h (hnot a)
  | none =>
    have hlt := index_lt_of_turn poll h
    rw [List.getElem?_eq_getElem hlt] at hj
    cases hj

end RoundRobin
