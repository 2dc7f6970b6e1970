import Mathlib

/-!
# Machinery/Metronome — a deadline advanced by addition does not drift

    deadline = t + period;      tick now:  if deadline ≤ now { beat; deadline += period; }

Ticks come when they come, and a tick gives one beat at most.  The `k`-th beat is never before
`t + k · period` (`le_of_beats_concat`).  Where ticks are a period apart at most, none is missed
either: the beat is exactly at the first tick from then on (`beats_concat_iff`), however many came
before it.
-/

namespace Metronome

variable (period t : ℤ)

/-- The count of beats after a tick. -/
def beat (j : ℕ) (now : ℤ) : ℕ := if t + period * (j + 1) ≤ now then j + 1 else j

/-- The count of beats after some ticks. -/
def beats (ticks : List ℤ) : ℕ := ticks.foldl (beat period t) 0

/-- Ticks do not go back, and none is later than a period after the one before it. -/
def Paced (ticks : List ℤ) : Prop :=
  (t :: ticks).IsChain fun a b => a ≤ b ∧ b ≤ a + period

variable {period t}

@[simp] theorem beats_nil : beats period t [] = 0 := rfl

theorem beats_concat (ticks : List ℤ) (now : ℤ) :
    beats period t (ticks ++ [now]) = beat period t (beats period t ticks) now :=
  List.foldl_append

/-- **No beat is early.** -/
theorem le_of_beats_concat {ticks : List ℤ} {now : ℤ}
    (h : beats period t (ticks ++ [now]) = beats period t ticks + 1) :
    t + period * (beats period t ticks + 1) ≤ now := by
  rw [beats_concat, beat] at h
  split at h
  · assumption
  · omega

/-- The last tick, or the start. -/
def last (t : ℤ) (ticks : List ℤ) : ℤ := ticks.getLast?.getD t

@[simp] theorem last_concat (ticks : List ℤ) (now : ℤ) : last t (ticks ++ [now]) = now := by
  rw [last, List.getLast?_concat]
  rfl

theorem paced_concat {ticks : List ℤ} {now : ℤ} : Paced period t (ticks ++ [now]) ↔
    Paced period t ticks ∧ last t ticks ≤ now ∧ now ≤ last t ticks + period := by
  have hlast : (t :: ticks).getLast? = some (last t ticks) := List.getLast?_cons
  rw [Paced, ← List.cons_append, List.isChain_append, hlast]
  simp [Paced]

/-- Ticks are at most the last one. -/
theorem Paced.le_last {ticks : List ℤ} (h : Paced period t ticks) :
    t ≤ last t ticks ∧ ∀ u ∈ ticks, u ≤ last t ticks := by
  induction ticks using List.reverseRecOn with
  | nil => exact ⟨le_rfl, fun u hu => absurd hu List.not_mem_nil⟩
  | append_singleton ticks now ih =>
    obtain ⟨hticks, hle, -⟩ := paced_concat.mp h
    obtain ⟨hstart, hall⟩ := ih hticks
    rw [last_concat]
    refine ⟨hstart.trans hle, fun u hu => ?_⟩
    rcases List.mem_append.mp hu with hu | hu
    · exact (hall u hu).trans hle
    · rw [List.mem_singleton.mp hu]

/-- **The beats keep up with paced ticks**: the last tick lies between the last beat and the
next. -/
theorem Paced.last_mem (hperiod : 0 < period) {ticks : List ℤ} (h : Paced period t ticks) :
    t + period * beats period t ticks ≤ last t ticks
      ∧ last t ticks < t + period * (beats period t ticks + 1) := by
  induction ticks using List.reverseRecOn with
  | nil =>
    rw [beats_nil, last, List.getLast?_nil, Option.getD_none]
    push_cast
    constructor <;> linarith
  | append_singleton ticks now ih =>
    obtain ⟨hticks, hle, hgap⟩ := paced_concat.mp h
    obtain ⟨hlo, hhi⟩ := ih hticks
    rw [last_concat, beats_concat, beat]
    split
    · rename_i hdue
      push_cast
      constructor <;> linarith
    · rename_i hwait
      constructor <;> linarith

/-- **No drift.**  Under paced ticks the `k`-th beat is at the first tick from `t + k · period`
on. -/
theorem beats_concat_iff (hperiod : 0 < period) {ticks : List ℤ} {now : ℤ}
    (h : Paced period t (ticks ++ [now])) {k : ℕ} (hk : 0 < k) :
    (beats period t ticks + 1 = k ∧ beats period t (ticks ++ [now]) = k)
      ↔ (∀ u ∈ ticks, u < t + period * k) ∧ t + period * k ≤ now := by
  obtain ⟨hticks, -, hgap⟩ := paced_concat.mp h
  obtain ⟨hlo, hhi⟩ := hticks.last_mem hperiod
  constructor
  · rintro ⟨hbefore, hafter⟩
    have hdue := le_of_beats_concat (hafter.trans hbefore.symm)
    have hcast : (k : ℤ) = beats period t ticks + 1 := by rw [← hbefore, Nat.cast_succ]
    rw [hcast]
    exact ⟨fun u hu => (hticks.le_last.2 u hu).trans_lt hhi, hdue⟩
  · rintro ⟨hearlier, hdue⟩
    have hbelow : last t ticks < t + period * k := by
      rw [last]
      cases hlast : ticks.getLast? with
      | none =>
        have : (0 : ℤ) < period * k := mul_pos hperiod (by exact_mod_cast hk)
        rw [Option.getD_none]
        linarith
      | some u => exact hearlier u (List.mem_of_getLast? hlast)
    -- the `k`-th beat is the next one: not before it, and not past it either
    have hge : beats period t ticks < k := by
      have : period * beats period t ticks < period * k := by linarith
      exact_mod_cast lt_of_mul_lt_mul_left this hperiod.le
    have hle : k < beats period t ticks + 2 := by
      have : period * k < period * (beats period t ticks + 2) := by linarith
      exact_mod_cast lt_of_mul_lt_mul_left this hperiod.le
    obtain rfl : k = beats period t ticks + 1 := by omega
    refine ⟨rfl, ?_⟩
    rw [beats_concat, beat, if_pos]
    exact_mod_cast hdue

end Metronome
