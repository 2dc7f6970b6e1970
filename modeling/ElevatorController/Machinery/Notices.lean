import Mathlib.Data.List.Basic

/-!
# Machinery/Notices — changes of what is shown, and the notices of them

    s ──notes──▸ s'      every view that shows something new of s' is among the notes

A view shows a value of a state, or nothing.  A change is *noted* when each view that shows a
different value after it has its notice in the list; a view that shows nothing any more needs none.

* `Noted.trans` — changes one after the other, their notices appended;
* `noted_foldl` — a fold that appends the notices of its steps.
-/

namespace Notices

variable {ι σ β ν ρ : Type*} {view : ι → σ → Option β} {note : ι → ν} {s s' s'' : σ}
  {notes notes' : List ν}

/-- Every view that shows a different value after the change is noted. -/
def Noted (view : ι → σ → Option β) (note : ι → ν) (s s' : σ) (notes : List ν) : Prop :=
  ∀ i, view i s' ≠ view i s → view i s' ≠ none → note i ∈ notes

theorem noted_of_view_eq (h : ∀ i, view i s' = view i s) : Noted view note s s' notes :=
  fun i hi _ => absurd (h i) hi

/-- A change without notices changes no view, but for those that show nothing any more. -/
theorem Noted.eq_of_notMem (h : Noted view note s s' notes) {i : ι} (hi : note i ∉ notes)
    (hsome : view i s' ≠ none) : view i s' = view i s :=
  not_not.mp fun hne => hi (h i hne hsome)

theorem Noted.trans (h : Noted view note s s' notes) (h' : Noted view note s' s'' notes') :
    Noted view note s s'' (notes ++ notes') := by
  intro i hi hsome
  rw [List.mem_append]
  by_cases hlast : view i s'' = view i s'
  · exact Or.inl (h i (hlast ▸ hi) (hlast ▸ hsome))
  · exact Or.inr (h' i hlast hsome)

/-- **A fold whose steps each append the notices of what they change notes all its changes.** -/
theorem noted_foldl {P : σ → Prop} {step : σ × List ν → ρ → σ × List ν}
    (hstep : ∀ x r, P x.1 → P (step x r).1 ∧
      ∃ new, (step x r).2 = x.2 ++ new ∧ Noted view note x.1 (step x r).1 new) :
    ∀ (l : List ρ) {x : σ × List ν}, P x.1 → Noted view note s x.1 x.2 →
      Noted view note s (l.foldl step x).1 (l.foldl step x).2
  | [], _, _, h => h
  | r :: l, x, hP, h => by
    obtain ⟨hP', new, hnew, hnoted⟩ := hstep x r hP
    exact noted_foldl hstep l hP' (hnew ▸ h.trans hnoted)

end Notices
