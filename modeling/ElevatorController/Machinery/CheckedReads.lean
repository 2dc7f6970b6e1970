import Mathlib.Data.List.Basic

/-!
# Machinery/CheckedReads — computations that read a list by index

    x ← xs[i]?;  y ← xs[j]?;  …          a read outside the list fails, and so does all the rest

A program that indexes an array is a computation in `Option` whose only failure is a read outside
the array.  `Yields x P` says that no read of `x` is outside, and that the result satisfies `P`; the
rules follow the computation.

Of an array cut short a computation reads less, and stops early where it sees the end.  `Carries P`
says that it gives nothing of its own: a result in `P`, none of an early stop, is that of the whole.
-/

namespace CheckedReads

universe u

variable {α β : Type u} {x y : Option α} {P Q : α → Prop} {R : β → Prop}

/-- No read fails, and the result satisfies `P`. -/
def Yields (x : Option α) (P : α → Prop) : Prop := ∃ a, x = some a ∧ P a

theorem yields_some {a : α} (h : P a) : Yields (some a) P := ⟨a, rfl, h⟩

theorem Yields.ne_none (h : Yields x P) : x ≠ none := by
  obtain ⟨a, rfl, -⟩ := h
  exact nofun

/-- **One computation after another.** -/
theorem Yields.bind (h : Yields x P) {f : α → Option β} (hf : ∀ a, P a → Yields (f a) R) :
    Yields (x >>= f) R := by
  obtain ⟨a, rfl, ha⟩ := h
  exact hf a ha

theorem yields_ite {c : Prop} [Decidable c] (hx : c → Yields x P) (hy : ¬ c → Yields y P) :
    Yields (if c then x else y) P := by
  split
  · exact hx ‹_›
  · exact hy ‹_›

/-- **A read below the length** yields the element, and goes on. -/
theorem yields_read {xs : List α} {i : ℕ} (h : i < xs.length) {f : α → Option β}
    (hf : ∀ a, xs[i]? = some a → Yields (f a) R) : Yields (xs[i]? >>= f) R := by
  have hread : xs[i]? = some xs[i] := List.getElem?_eq_getElem h
  rw [hread]
  exact hf _ hread

/-- **A loop of computations**: what every pass keeps, the loop yields. -/
theorem yields_foldlM {σ : Type u} {S : σ → Prop} {f : σ → α → Option σ} :
    ∀ {l : List α} {s : σ}, S s → (∀ s a, a ∈ l → S s → Yields (f s a) S) →
      Yields (l.foldlM f s) S
  | [], _, hs, _ => yields_some hs
  | a :: l, s, hs, hf => by
    rw [List.foldlM_cons]
    exact Yields.bind (hf s a List.mem_cons_self hs) fun _ hs' =>
      yields_foldlM hs' fun s' b hb => hf s' b (List.mem_cons_of_mem _ hb)

/-! ## A list cut short -/

/-- What the first computation yields in `P`, the second does. -/
def Carries (P : α → Prop) (x y : Option α) : Prop := ∀ a, P a → x = some a → y = some a

theorem Carries.refl (P : α → Prop) (x : Option α) : Carries P x x := fun _ _ h => h

/-- **An early stop**, whatever the whole goes on with. -/
theorem carries_stop {a : α} (h : ¬ P a) : Carries P (some a) y := fun _ hb hab =>
  absurd (Option.some.inj hab ▸ hb) h

theorem Carries.ite {c : Prop} [Decidable c] {x' y' : Option α} (hx : Carries P x x')
    (hy : Carries P y y') : Carries P (if c then x else y) (if c then x' else y') := by
  split
  · exact hx
  · exact hy

/-- **A check for the end of the list**, after which the shorter one stops: where the shorter goes
on, the longer does. -/
theorem carries_check {c c' : Prop} [Decidable c] [Decidable c'] {a : α} {y' : Option α}
    (h : ¬ P a) (hcut : c' → c) (hgo : ¬ c → ¬ c' → Carries P x y) :
    Carries P (if c then some a else x) (if c' then y' else y) := by
  split
  · exact carries_stop h
  · rename_i hc
    rw [if_neg fun hc' => hc (hcut hc')]
    exact hgo hc fun hc' => hc (hcut hc')

theorem read_of_cut {xs ys : List α} (h : xs <+: ys) {i : ℕ} {a : α} (hx : xs[i]? = some a) :
    ys[i]? = some a := by
  obtain ⟨hi, rfl⟩ := List.getElem?_eq_some_iff.mp hx
  rw [List.getElem?_eq_getElem (Nat.lt_of_lt_of_le hi h.length_le), h.getElem hi]

/-- **A read of the shorter list** reads the same of the longer. -/
theorem carries_read {xs ys : List α} (h : xs <+: ys) {i : ℕ} {Q : β → Prop}
    {f g : α → Option β} (hfg : ∀ a, Carries Q (f a) (g a)) :
    Carries Q (xs[i]? >>= f) (ys[i]? >>= g) := by
  intro b hb hx
  obtain ⟨a, ha, hf⟩ := Option.bind_eq_some_iff.mp hx
  exact Option.bind_eq_some_iff.mpr ⟨a, read_of_cut h ha, hfg a b hb hf⟩

/-- **A loop of computations** that never stops early. -/
theorem carries_foldlM {σ : Type u} {f g : σ → α → Option σ}
    (hfg : ∀ s a, Carries (fun _ => True) (f s a) (g s a)) :
    ∀ (l : List α) (s : σ), Carries (fun _ => True) (l.foldlM f s) (l.foldlM g s)
  | [], _ => .refl _ _
  | a :: l, s => by
    intro r _ hx
    rw [List.foldlM_cons] at hx ⊢
    obtain ⟨s', hs', hrest⟩ := Option.bind_eq_some_iff.mp hx
    exact Option.bind_eq_some_iff.mpr
      ⟨s', hfg s a s' trivial hs', carries_foldlM hfg l s' r trivial hrest⟩

end CheckedReads
