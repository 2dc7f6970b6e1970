import ElevatorController.Machinery.Runs

/-!
# Machinery/Answers — a system that answers each event, and a specification of its answers

    s ──e₁/r₁──▸ s₁ ──e₂/r₂──▸ s₂ ──▸ …                answers step es s = some (rs, sₙ)

A step may be undefined, and then the run is.  `answers_refine` is the rule for a specification that
answers every event: related states answer alike as long as the specification is asked what it has
an answer for.
-/

namespace Answers

variable {σ τ ε ρ : Type*}

/-- The answers to a run of events, and the state it ends in. -/
def answers (step : σ → ε → Option (ρ × σ)) : List ε → σ → Option (List ρ × σ)
  | [], s => some ([], s)
  | e :: es, s =>
    (step s e).bind fun r => (answers step es r.2).map fun rs => (r.1 :: rs.1, rs.2)

/-- What a specification answers to a run of events. -/
def specified (spec : τ → ε → ρ × τ) (es : List ε) (t : τ) : List ρ :=
  (Runs.steps (fun t e => (spec t e).2) es t).map fun x => (spec x.1 x.2).1

variable {step : σ → ε → Option (ρ × σ)}

theorem answers_cons {s s' : σ} {e : ε} {r : ρ} (h : step s e = some (r, s')) (es : List ε) :
    answers step (e :: es) s = (answers step es s').map fun rs => (r :: rs.1, rs.2) := by
  rw [answers, h]
  rfl

theorem answers_cons_none {s : σ} {e : ε} (h : step s e = none) (es : List ε) :
    answers step (e :: es) s = none := by
  rw [answers, h]
  rfl

/-- Runs compose. -/
theorem answers_append {es' : List ε} {s₂ s₃ : σ} {rs' : List ρ} : ∀ {es : List ε} {s₁ : σ}
    {rs : List ρ}, answers step es s₁ = some (rs, s₂) → answers step es' s₂ = some (rs', s₃) →
    answers step (es ++ es') s₁ = some (rs ++ rs', s₃)
  | [], _, _, h, h' => by
    obtain ⟨rfl, rfl⟩ := Prod.mk.inj (Option.some.inj h)
    exact h'
  | e :: es, s₁, _, h, h' => by
    rw [answers] at h
    obtain ⟨⟨r, s⟩, hstep, h⟩ := Option.bind_eq_some_iff.mp h
    obtain ⟨⟨rs₁, s'⟩, hrest, hrs⟩ := Option.map_eq_some_iff.mp h
    obtain ⟨rfl, rfl⟩ := Prod.mk.inj hrs
    rw [List.cons_append, answers_cons hstep, answers_append hrest h']
    rfl

/-- **A system whose every step answers as specified answers a run as specified.** -/
theorem answers_refine {spec : τ → ε → ρ × τ} {R : σ → τ → Prop} {C : τ → ε → Prop}
    (hstep : ∀ s t e, R s t → C t e →
      ∃ s', step s e = some ((spec t e).1, s') ∧ R s' (spec t e).2) :
    ∀ (es : List ε) {s : σ} {t : τ}, R s t →
      (∀ x ∈ Runs.steps (fun t e => (spec t e).2) es t, C x.1 x.2) →
      ∃ s', answers step es s = some (specified spec es t, s')
        ∧ R s' (Runs.run (fun t e => (spec t e).2) es t)
  | [], s, _, h, _ => ⟨s, rfl, h⟩
  | e :: es, s, t, h, hC => by
    obtain ⟨s₁, hanswer, h₁⟩ := hstep s t e h (hC (t, e) List.mem_cons_self)
    obtain ⟨s₂, hanswers, h₂⟩ :=
      answers_refine hstep es h₁ fun x hx => hC x (List.mem_cons_of_mem _ hx)
    exact ⟨s₂, by rw [answers_cons hanswer, hanswers]; rfl, h₂⟩

end Answers
