import Mathlib

/-!
# Machinery/Runs — runs of a system that takes one event at a time

    s ──e₁──▸ s₁ ──e₂──▸ s₂ ──▸ … ──▸ run step es s

`steps` lists the states a run passes through, each with the event taken there, so a condition on
every step of a run is a condition on the members of `steps`.

* `run_invariant`, `run_invariant_of_steps` — an invariant, unconditional or under such a condition;
* `run_history` — a relation between the state and a history of the steps taken;
* `run_simulation` — a relation between two systems that every event preserves;
* `exists_leave` — a measure that every counted step lowers bounds the counted steps for which a
  property can last.
-/

namespace Runs

variable {σ τ ε : Type*} (step : σ → ε → σ)

/-- The state a run of events ends in. -/
def run (es : List ε) (s : σ) : σ := es.foldl step s

/-- The states a run passes through, each with the event it takes there. -/
def steps : List ε → σ → List (σ × ε)
  | [], _ => []
  | e :: es, s => (s, e) :: steps es (step s e)

@[simp] theorem run_nil (s : σ) : run step [] s = s := rfl

@[simp] theorem run_cons (e : ε) (es : List ε) (s : σ) :
    run step (e :: es) s = run step es (step s e) := rfl

theorem run_append (es es' : List ε) (s : σ) :
    run step (es ++ es') s = run step es' (run step es s) := List.foldl_append

theorem run_concat (es : List ε) (e : ε) (s : σ) :
    run step (es ++ [e]) s = step (run step es s) e := run_append step es [e] s

/-- A step of a run is an event of it, taken in the state the events before it lead to. -/
theorem mem_steps_iff {x : σ × ε} : ∀ {es : List ε} {s : σ}, x ∈ steps step es s ↔
    ∃ es₁ es₂, es = es₁ ++ x.2 :: es₂ ∧ x.1 = run step es₁ s
  | [], s => by simp [steps]
  | e :: es, s => by
    rw [steps, List.mem_cons, mem_steps_iff]
    constructor
    · rintro (rfl | ⟨es₁, es₂, rfl, hx⟩)
      · exact ⟨[], es, rfl, rfl⟩
      · exact ⟨e :: es₁, es₂, rfl, hx⟩
    · rintro ⟨es₁, es₂, hes, hx⟩
      cases es₁ with
      | nil =>
        obtain ⟨rfl, rfl⟩ := List.cons.inj hes
        exact Or.inl (Prod.ext hx rfl)
      | cons e' es₁ =>
        obtain ⟨rfl, rfl⟩ := List.cons.inj hes
        exact Or.inr ⟨es₁, es₂, rfl, hx⟩

theorem steps_append (es es' : List ε) (s : σ) :
    steps step (es ++ es') s = steps step es s ++ steps step es' (run step es s) := by
  induction es generalizing s with
  | nil => rfl
  | cons e es ih => exact congrArg _ (ih (step s e))

/-! ## Invariants -/

variable {step} {P : σ → Prop}

/-- **What every step preserves, every run preserves.** -/
theorem run_invariant (hstep : ∀ s e, P s → P (step s e)) : ∀ (es : List ε) {s : σ}, P s →
    P (run step es s)
  | [], _, h => h
  | e :: es, s, h => run_invariant hstep es (hstep s e h)

/-- **What every step under a condition preserves holds throughout a run whose steps all meet the
condition.** -/
theorem run_invariant_of_steps {C : σ → ε → Prop} (hstep : ∀ s e, P s → C s e → P (step s e)) :
    ∀ (es : List ε) {s : σ}, P s → (∀ x ∈ steps step es s, C x.1 x.2) → P (run step es s)
  | [], _, h, _ => h
  | e :: es, s, h, hC => by
    have hhead := hC (s, e) List.mem_cons_self
    exact run_invariant_of_steps hstep es (hstep s e h hhead) fun x hx =>
      hC x (List.mem_cons_of_mem _ hx)

/-- **A history kept along a run stays in its relation to the state.**  Each step notes the state it
starts from and its event. -/
theorem run_history {η : Type*} {note : η → σ × ε → η} {R : σ → η → Prop}
    (hstep : ∀ s e h, R s h → R (step s e) (note h (s, e))) : ∀ (es : List ε) {s : σ} {h : η},
    R s h → R (run step es s) ((steps step es s).foldl note h)
  | [], _, _, hs => hs
  | e :: es, s, h, hs => run_history hstep es (hstep s e h hs)

/-- **A relation that every event preserves relates the ends of two runs of the same events.** -/
theorem run_simulation {step' : τ → ε → τ} {R : σ → τ → Prop}
    (hstep : ∀ s t e, R s t → R (step s e) (step' t e)) : ∀ (es : List ε) {s : σ} {t : τ}, R s t →
    R (run step es s) (run step' es t)
  | [], _, _, h => h
  | e :: es, s, t, h => run_simulation hstep es (hstep s t e h)

/-! ## Bounded progress -/

variable (step)

/-- The number of steps of a run that count. -/
def count (counts : σ → ε → Bool) : List ε → σ → ℕ
  | [], _ => 0
  | e :: es, s => (if counts s e then 1 else 0) + count counts es (step s e)

variable {step}

/-- **A property whose measure every counted step lowers is left within the measure.**  Steps that
do not count may not raise it. -/
theorem exists_leave {counts : σ → ε → Bool} {C : σ → ε → Prop} {Q : σ → Prop} {μ : σ → ℕ}
    (hpos : ∀ s, P s → Q s → 0 < μ s) (hP : ∀ s e, P s → C s e → P (step s e))
    (hμ : ∀ s e, P s → Q s → C s e → Q (step s e) →
      μ (step s e) + (if counts s e then 1 else 0) ≤ μ s) :
    ∀ (es : List ε) {s : σ}, P s → Q s → (∀ x ∈ steps step es s, C x.1 x.2) →
      μ s ≤ count step counts es s →
      ∃ es₁ e es₂, es = es₁ ++ e :: es₂ ∧ Q (run step es₁ s) ∧ ¬ Q (run step (es₁ ++ [e]) s)
        ∧ count step counts (es₁ ++ [e]) s ≤ μ s
  | [], s, hp, hq, _, hle => absurd (hpos s hp hq) (not_lt.mpr hle)
  | e :: es, s, hp, hq, hC, hle => by
    have hhead := hC (s, e) List.mem_cons_self
    by_cases hq' : Q (step s e)
    · have hdrop := hμ s e hp hq hhead hq'
      rw [count] at hle
      obtain ⟨es₁, e', es₂, rfl, hin, hout, hcount⟩ := exists_leave hpos hP hμ es
        (hP s e hp hhead) hq' (fun x hx => hC x (List.mem_cons_of_mem _ hx)) (by omega)
      refine ⟨e :: es₁, e', es₂, rfl, hin, hout, ?_⟩
      rw [List.cons_append, count]
      omega
    · refine ⟨[], e, es, rfl, hq, hq', ?_⟩
      have := hpos s hp hq
      rw [List.nil_append, count, count]
      split <;> omega

end Runs
