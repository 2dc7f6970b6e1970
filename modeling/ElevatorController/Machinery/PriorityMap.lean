import Mathlib

/-!
# Machinery/PriorityMap — commands at sixteen priorities over a default

    priority   1   2   3  …  8  …  16 │ default
    command    –   –   v      w     – │   d        ▸  resolve = v

A map from the priorities `1 … 16` to optional commands.  A priority out of range is the lowest
one.  `resolve` is the command of the lowest-numbered priority that has one, else the default;
`resolve_spec` says which one that is, and `resolve_mem` that it comes from what was commanded.
-/

/-- The outstanding commands, by priority. -/
abbrev PriorityMap (α : Type*) : Type _ := ℕ → Option α

namespace PriorityMap

variable {α : Type*} (m : PriorityMap α) {d v : α}

/-- The priority a number stands for. -/
def priority (n : ℕ) : ℕ := if 1 ≤ n ∧ n ≤ 16 then n else 16

/-- No command at any priority. -/
def empty : PriorityMap α := fun _ => none

/-- Command a value. -/
def command (n : ℕ) (v : α) : PriorityMap α := Function.update m (priority n) (some v)

/-- Relinquish a priority. -/
def relinquish (n : ℕ) : PriorityMap α := Function.update m (priority n) none

/-- The priorities, highest first. -/
def priorities : List ℕ := List.range' 1 16

theorem mem_priorities {i : ℕ} : i ∈ priorities ↔ 1 ≤ i ∧ i ≤ 16 := by
  rw [priorities, List.mem_range'_1]
  omega

/-- The outstanding command of the highest priority, else the default. -/
def resolve (d : α) : α := (priorities.findSome? m).getD d

variable {m}

/-- **The resolved value is the default of an empty map, else the command at the lowest-numbered
priority that has one.** -/
theorem resolve_spec (d : α) : ((∀ i, 1 ≤ i → i ≤ 16 → m i = none) ∧ m.resolve d = d)
    ∨ ∃ i v, 1 ≤ i ∧ i ≤ 16 ∧ m i = some v ∧ (∀ j, 1 ≤ j → j < i → m j = none)
      ∧ m.resolve d = v := by
  cases h : priorities.findSome? m with
  | none =>
    refine Or.inl ⟨fun i h1 h2 => ?_, by rw [resolve, h]; rfl⟩
    exact List.findSome?_eq_none_iff.mp h i (mem_priorities.mpr ⟨h1, h2⟩)
  | some v =>
    obtain ⟨l₁, i, l₂, hl, hi, hbefore⟩ := List.findSome?_eq_some_iff.mp h
    have himem : i ∈ priorities := hl ▸ List.mem_append_right _ List.mem_cons_self
    obtain ⟨h1, h16⟩ := mem_priorities.mp himem
    refine Or.inr ⟨i, v, h1, h16, hi, fun j hj hji => ?_, by rw [resolve, h]; rfl⟩
    have hj : j ∈ l₁ ++ i :: l₂ := hl ▸ mem_priorities.mpr ⟨hj, by omega⟩
    rcases List.mem_append.mp hj with hj | hj
    · exact hbefore j hj
    · have hsorted : (l₁ ++ i :: l₂).Pairwise (· < ·) := hl ▸ List.pairwise_lt_range'
      have htail := (List.pairwise_append.mp hsorted).2.1
      rcases List.mem_cons.mp hj with rfl | hj
      · omega
      · have := (List.pairwise_cons.mp htail).1 j hj
        omega

/-- The resolved value satisfies what the default and every command do. -/
theorem resolve_mem {P : α → Prop} (hd : P d) (hm : ∀ i v, m i = some v → P v) :
    P (m.resolve d) := by
  obtain ⟨-, h⟩ | ⟨i, v, -, -, hi, -, h⟩ := resolve_spec (m := m) d
  · rwa [h]
  · rw [h]
    exact hm i v hi

/-! ## As an array -/

/-- The sixteen slots, the highest priority first. -/
def slots (m : PriorityMap α) : List (Option α) := priorities.map m

@[simp] theorem length_slots (m : PriorityMap α) : m.slots.length = 16 := by
  rw [slots, List.length_map, priorities, List.length_range']

theorem getElem?_slots (m : PriorityMap α) {i : ℕ} (h : i < 16) : m.slots[i]? = some (m (i + 1)) := by
  rw [slots, List.getElem?_map, priorities, List.getElem?_range' h, Option.map_some]
  rw [Nat.one_mul, Nat.add_comm]

/-- A slot is filled where its priority is commanded. -/
theorem set_slots (m : PriorityMap α) {i : ℕ} (h : i < 16) (v : Option α) :
    m.slots.set i v = slots (Function.update m (i + 1) v) := by
  refine List.ext_getElem? fun j => ?_
  rw [List.getElem?_set, length_slots]
  by_cases hj : j < 16
  · rw [getElem?_slots m hj, getElem?_slots (Function.update m (i + 1) v) hj,
      Function.update_apply]
    split
    · rename_i hij
      subst hij
      rw [if_pos rfl]
    · rw [if_neg (by omega)]
  · have hout : ∀ m : PriorityMap α, m.slots[j]? = none := fun m =>
      List.getElem?_eq_none (by rw [length_slots]; omega)
    rw [hout, hout, if_neg (by omega)]

/-- The first command of the slots is the one that is resolved to. -/
theorem resolve_eq_head (m : PriorityMap α) (d : α) :
    m.resolve d = m.slots.reduceOption.head?.getD d := by
  rw [resolve, slots, List.reduceOption, List.head?_filterMap, List.findSome?_map]
  rfl

end PriorityMap
