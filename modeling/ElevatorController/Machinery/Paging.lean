import Mathlib

/-!
# Machinery/Paging — a list served one element a call

    element 0, more ─▸ element 1, more ─▸ … ─▸ element n−1, no more

A client asks for the elements by index and goes on while it is told that there are more; an empty
list is refused at index 0.  `serves_iff` says what it puts together when the server answers from a
list.
-/

namespace Paging

variable {α : Type*} (element : ℕ → Option α) (more : ℕ → Bool)

/-- What a client puts together from an index on. -/
inductive Walk : ℕ → List α → Prop
  /-- The last element. -/
  | last {i : ℕ} {x : α} (hx : element i = some x) (hmore : more i = false) : Walk i [x]
  /-- An element, and more. -/
  | next {i : ℕ} {x : α} {xs : List α} (hx : element i = some x) (hmore : more i = true)
      (hxs : Walk (i + 1) xs) : Walk i (x :: xs)

/-- **What a client puts together**: nothing if index 0 is refused, else the walk from there. -/
def Serves (xs : List α) : Prop :=
  (xs = [] ∧ element 0 = none ∧ more 0 = false) ∨ Walk element more 0 xs

variable {element more}

/-- A walk puts together one list. -/
theorem Walk.unique : ∀ {xs ys : List α} {i : ℕ}, Walk element more i xs → Walk element more i ys →
    xs = ys
  | _, _, _, .last hx _, .last hy _ => by rw [Option.some.inj (hx.symm.trans hy)]
  | _, _, _, .last _ hmore, .next _ hmore' _ => absurd (hmore.symm.trans hmore') (by decide)
  | _, _, _, .next _ hmore _, .last _ hmore' => absurd (hmore.symm.trans hmore') (by decide)
  | _, _, _, .next hx _ hxs, .next hy _ hys => by
    rw [Option.some.inj (hx.symm.trans hy), hxs.unique hys]

theorem Serves.unique {xs ys : List α} (hxs : Serves element more xs)
    (hys : Serves element more ys) : xs = ys := by
  rcases hxs with ⟨rfl, hnone, -⟩ | hxs
  · rcases hys with ⟨rfl, -⟩ | hys
    · rfl
    · cases hys with
      | last hx => exact absurd (hnone.symm.trans hx) nofun
      | next hx => exact absurd (hnone.symm.trans hx) nofun
  · rcases hys with ⟨rfl, hnone, -⟩ | hys
    · cases hxs with
      | last hx => exact absurd (hnone.symm.trans hx) nofun
      | next hx => exact absurd (hnone.symm.trans hx) nofun
    · exact hxs.unique hys

section List

variable {l : List α} (helement : ∀ i, element i = l[i]?)
  (hmore : ∀ i, more i = decide (i + 1 < l.length))
include helement hmore

/-- From inside the list a client puts together the rest of it. -/
theorem walk_drop {i : ℕ} (hi : i < l.length) : Walk element more i (l.drop i) := by
  have hx : element i = some l[i] := (helement i).trans (List.getElem?_eq_getElem hi)
  rw [List.drop_eq_getElem_cons hi]
  by_cases hlast : i + 1 < l.length
  · exact .next hx ((hmore i).trans (decide_eq_true hlast)) (walk_drop hlast)
  · rw [List.drop_eq_nil_of_le (not_lt.mp hlast)]
    exact .last hx ((hmore i).trans (decide_eq_false hlast))
termination_by l.length - i

/-- **A server that answers from a list serves that list.** -/
theorem serves_iff {xs : List α} : Serves element more xs ↔ xs = l := by
  have hserves : Serves element more l := by
    by_cases hempty : l = []
    · subst hempty
      exact Or.inl ⟨rfl, helement 0, hmore 0⟩
    · have hwalk := walk_drop helement hmore (List.length_pos_iff.mpr hempty)
      rw [List.drop_zero] at hwalk
      exact Or.inr hwalk
  refine ⟨fun h => h.unique hserves, ?_⟩
  rintro rfl
  exact hserves

end List

end Paging
