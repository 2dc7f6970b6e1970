import ElevatorController.Machinery.Answers
import ElevatorController.Device.Frame

/-!
# Device/Restart — the deferred restart

    request at 0, Warm in 1000      ─┐
    request at 400, Cold in 1000     ├─▸ one firing, at the first poll from 1000 on, Cold
    poll, poll, …                   ─┘

`RequestRestart` merges what it is asked for into one deadline and one kind.  The promises made
since the last firing are read off a run and its answers (`promisesSince`); what is pending is the
earliest and the strongest of them.
-/

namespace Controller

open Answers

/-! ## Runs of requests and polls -/

/-- A call of `RequestRestart` or of `RestartDue`, at a monotonic time in milliseconds. -/
inductive RestartOp where
  | request (nowMs : ℕ) (kind : RestartKind) (delayMilliseconds : ℕ)
  | poll (nowMs : ℕ)

/-- The request's deadline fits the 64-bit clock. -/
def RestartOp.Fits : RestartOp → Prop
  | .request nowMs _ delayMilliseconds => nowMs + delayMilliseconds < 2 ^ 64
  | .poll _ => True

/-- The call: a poll answers the kind that fired, if one did. -/
def RestartOp.perform (r : Restart) : RestartOp → Option (Option RestartKind × Restart)
  | .request nowMs kind delayMilliseconds => some (none, r.request nowMs kind delayMilliseconds)
  | .poll nowMs => some (r.due nowMs)

/-- A restart a client was promised. -/
structure Promise where
  dueAtMs : ℕ
  kind : RestartKind

/-- The promises outstanding after one more call and its answer. -/
def sinceStep (since : List Promise) : RestartOp × Option RestartKind → List Promise
  | (.request nowMs kind delayMilliseconds, _) => since ++ [⟨nowMs + delayMilliseconds, kind⟩]
  | (.poll _, some _) => []
  | (.poll _, none) => since

/-- The promises made since the last firing of a run, by its calls and answers. -/
def promisesSince (ops : List RestartOp) (answers : List (Option RestartKind)) : List Promise :=
  (ops.zip answers).foldl sinceStep []

/-! ## What is pending -/

/-- What is pending is the earliest and the strongest of the promises. -/
structure Restart.Merges (r : Restart) (since : List Promise) : Prop where
  pending : r.pending = true ↔ since ≠ []
  least : r.pending = true → IsLeast {d | ∃ p ∈ since, p.dueAtMs = d} r.dueAtMs
  cold : r.pending = true → (r.kind = .cold ↔ ∃ p ∈ since, p.kind = .cold)

theorem Restart.merges_nil {r : Restart} (h : r.pending = false) : r.Merges [] where
  pending := by simp [h]
  least hp := absurd hp (by simp [h])
  cold hp := absurd hp (by simp [h])

/-- **A request is merged in**: the earliest deadline and the strongest kind stay. -/
theorem Restart.Merges.request {r : Restart} {since : List Promise} (h : r.Merges since)
    {nowMs delayMilliseconds : ℕ} (kind : RestartKind)
    (hfits : nowMs + delayMilliseconds < 2 ^ 64) :
    (r.request nowMs kind delayMilliseconds).Merges
      (since ++ [⟨nowMs + delayMilliseconds, kind⟩]) := by
  have hdues : {d | ∃ p ∈ since ++ [⟨nowMs + delayMilliseconds, kind⟩], p.dueAtMs = d}
      = insert (nowMs + delayMilliseconds) {d | ∃ p ∈ since, p.dueAtMs = d} := by
    ext d
    simp [or_and_right, exists_or, eq_comm, or_comm]
  rw [Restart.request, Nat.mod_eq_of_lt hfits]
  by_cases hpending : r.pending = true
  · rw [if_pos hpending]
    refine ⟨by simpa using hpending, fun _ => ?_, fun _ => ?_⟩
    · have hmin : (if nowMs + delayMilliseconds < r.dueAtMs then nowMs + delayMilliseconds
          else r.dueAtMs) = min (nowMs + delayMilliseconds) r.dueAtMs := by split <;> omega
      rw [hdues, hmin]
      exact (h.least hpending).insert (nowMs + delayMilliseconds)
    · have hcold := h.cold hpending
      cases kind <;> simp [hcold, or_and_right, exists_or]
  · have hempty : since = [] := not_not.mp fun hne => hpending (h.pending.mpr hne)
    rw [if_neg hpending, hempty]
    refine ⟨by simp, fun _ => ?_, fun _ => by simp⟩
    simp

/-- **A poll fires exactly if a promise is due**, with the strongest kind, and nothing is pending
after. -/
theorem Restart.Merges.due {r : Restart} {since : List Promise} (h : r.Merges since) (nowMs : ℕ) :
    ((r.due nowMs).1 ≠ none ↔ ∃ p ∈ since, p.dueAtMs ≤ nowMs)
      ∧ ∀ kind, (r.due nowMs).1 = some kind →
        (kind = .cold ↔ ∃ p ∈ since, p.kind = .cold) ∧ (r.due nowMs).2.pending = false := by
  rw [Restart.due]
  by_cases hpending : r.pending = true
  swap
  · have hempty : since = [] := not_not.mp fun hne => hpending (h.pending.mpr hne)
    rw [if_pos (Or.inl hpending), hempty]
    simp
  obtain ⟨⟨p, hp, hdue⟩, hleast⟩ := h.least hpending
  by_cases hlt : nowMs < r.dueAtMs
  · rw [if_pos (Or.inr hlt)]
    refine ⟨iff_of_false (by simp) ?_, by simp⟩
    rintro ⟨q, hq, hqdue⟩
    have hle : r.dueAtMs ≤ q.dueAtMs := hleast ⟨q, hq, rfl⟩
    omega
  · rw [if_neg (not_or.mpr ⟨not_not.mpr hpending, hlt⟩)]
    refine ⟨iff_of_true (by simp) ⟨p, hp, by omega⟩, fun kind hkind => ⟨?_, rfl⟩⟩
    rw [← Option.some.inj hkind]
    exact h.cold hpending

/-- A poll that does not fire changes nothing. -/
theorem Restart.due_of_none {r : Restart} {nowMs : ℕ} (h : (r.due nowMs).1 = none) :
    (r.due nowMs).2 = r := by
  rw [Restart.due] at h ⊢
  split at h
  · rw [if_pos ‹_›]
  · cases h

/-! ## Runs -/

/-- **One call keeps what is pending the merge of the promises outstanding.** -/
theorem Restart.Merges.perform {r : Restart} {since : List Promise} (h : r.Merges since)
    {op : RestartOp} (hfits : op.Fits) :
    ∃ answer r', RestartOp.perform r op = some (answer, r')
      ∧ r'.Merges (sinceStep since (op, answer)) := by
  cases op with
  | request nowMs kind delayMilliseconds => exact ⟨_, _, rfl, h.request kind hfits⟩
  | poll nowMs =>
    refine ⟨(r.due nowMs).1, (r.due nowMs).2, rfl, ?_⟩
    cases hanswer : (r.due nowMs).1 with
    | none =>
      rw [Restart.due_of_none hanswer]
      exact h
    | some kind => exact Restart.merges_nil ((h.due nowMs).2 kind hanswer).2

/-- …and so does a run. -/
theorem Restart.Merges.answers : ∀ (ops : List RestartOp) {r : Restart} {since : List Promise},
    r.Merges since → (∀ op ∈ ops, op.Fits) →
    ∃ rs r', Answers.answers RestartOp.perform ops r = some (rs, r')
      ∧ r'.Merges ((ops.zip rs).foldl sinceStep since)
  | [], r, _, h, _ => ⟨[], r, rfl, h⟩
  | op :: ops, r, _, h, hfits => by
    obtain ⟨answer, r₁, hop, h₁⟩ := h.perform (hfits op List.mem_cons_self)
    obtain ⟨rs, r', hops, h'⟩ :=
      Restart.Merges.answers ops h₁ fun o ho => hfits o (List.mem_cons_of_mem _ ho)
    exact ⟨answer :: rs, r', by rw [answers_cons hop, hops]; rfl, h'⟩

/-! ## Runs of the device -/

/-- The main loop's poll is `RestartDue`. -/
theorem restart_restartBlock (nowMs : ℕ) (s : State) :
    (restartBlock nowMs s).1.restart = (s.restart.due nowMs).2 := by
  rw [restartBlock]
  rcases (s.restart.due nowMs).1 with _ | _ | _
  all_goals rfl

/-- The restart calls an event makes. -/
def Event.restartOps (cfg : Config) : Event → List RestartOp
  | .request (.reinitializeDevice nowMs deviceInstance reinitializedState password) =>
    if deviceInstance = cfg.deviceInstance ∧ passwordAccepted cfg.dccPassword password = true then
      if reinitializedState = reinitializeStateColdstart then
        [.request nowMs .cold restartDelayMs]
      else if reinitializedState = reinitializeStateWarmstart then
        [.request nowMs .warm restartDelayMs]
      else []
    else []
  | .action (.restart nowMs) => [.poll nowMs]
  | _ => []

/-- The restart calls leave this restart. -/
def Leaves (ops : List RestartOp) (r r' : Restart) : Prop :=
  ∃ rs, answers RestartOp.perform ops r = some (rs, r')

theorem leaves_nil {r r' : Restart} (h : r' = r) : Leaves [] r r' := ⟨[], by rw [h]; rfl⟩

theorem Leaves.append {ops ops' : List RestartOp} {r₁ r₂ r₃ : Restart}
    (h : Leaves ops r₁ r₂) (h' : Leaves ops' r₂ r₃) : Leaves (ops ++ ops') r₁ r₃ := by
  obtain ⟨rs, hrs⟩ := h
  obtain ⟨rs', hrs'⟩ := h'
  exact ⟨rs ++ rs', answers_append hrs hrs'⟩

/-- A ReinitializeDevice asks for a restart when its device and password are right and its state is
COLDSTART or WARMSTART. -/
theorem restart_reinitializeDevice (cfg : Config) (s : State)
    (nowMs deviceInstance reinitializedState : ℕ) (password : Option (List UInt8)) :
    Leaves (Event.restartOps cfg
        (.request (.reinitializeDevice nowMs deviceInstance reinitializedState password)))
      s.restart
      (reinitializeDevice cfg nowMs deviceInstance reinitializedState password s).2.restart := by
  rw [Event.restartOps, reinitializeDevice]
  by_cases hdevice : deviceInstance = cfg.deviceInstance
  swap
  · rw [if_neg fun h => hdevice h.1, if_pos hdevice]
    exact leaves_nil rfl
  by_cases hpassword : passwordAccepted cfg.dccPassword password = true
  swap
  · rw [if_neg fun h => hpassword h.2, if_neg (not_not.mpr hdevice), if_pos hpassword]
    exact leaves_nil rfl
  rw [if_pos ⟨hdevice, hpassword⟩, if_neg (not_not.mpr hdevice), if_neg (not_not.mpr hpassword)]
  by_cases hcold : reinitializedState = reinitializeStateColdstart
  · rw [if_pos hcold, if_pos hcold]
    exact ⟨[none], rfl⟩
  by_cases hwarm : reinitializedState = reinitializeStateWarmstart
  · rw [if_neg hcold, if_neg hcold, if_pos hwarm, if_pos hwarm]
    exact ⟨[none], rfl⟩
  rw [if_neg hcold, if_neg hcold, if_neg hwarm, if_neg hwarm]
  split <;> exact leaves_nil rfl

/-- **An event does to the restart what its restart calls do.** -/
theorem Event.restart_step (cfg : Config) (s : State) (e : Event) :
    Leaves (e.restartOps cfg) s.restart (e.step cfg s).restart := by
  cases e with
  | action a =>
    cases a with
    | restore addObject =>
      refine leaves_nil ?_
      rw [Event.step, Action.perform, restoreBlock]
      split <;> rfl
    | liftCarTick now => exact leaves_nil rfl
    | passengerAlarm now =>
      refine leaves_nil ?_
      rw [Event.step, Action.perform, passengerAlarmBlock]
      split <;> rfl
    | restart nowMs =>
      rw [Event.step, Action.perform, restart_restartBlock]
      exact ⟨[(s.restart.due nowMs).1], rfl⟩
    | key command => cases command <;> exact leaves_nil rfl
  | request r =>
    cases r with
    | reinitializeDevice nowMs deviceInstance reinitializedState password =>
      exact restart_reinitializeDevice cfg s nowMs deviceInstance reinitializedState password
    | _ => exact leaves_nil (Request.restart_step cfg s (by rintro _ _ _ _ ⟨⟩))

/-- …and so does a run. -/
theorem restart_run (cfg : Config) : ∀ (es : List Event) (s : State),
    Leaves (es.flatMap (Event.restartOps cfg)) s.restart
      (Runs.run (Event.step cfg) es s).restart
  | [], _ => leaves_nil rfl
  | e :: es, s => (Event.restart_step cfg s e).append (restart_run cfg es (e.step cfg s))

/-- **After any events from power-on, what the device has pending is the earliest and the strongest
of the restarts promised since the last firing.** -/
theorem merges_run (cfg : Config) (now : ℤ) {es : List Event}
    (hfits : ∀ op ∈ es.flatMap (Event.restartOps cfg), op.Fits) :
    ∃ rs r', answers RestartOp.perform (es.flatMap (Event.restartOps cfg)) {} = some (rs, r')
      ∧ (Runs.run (Event.step cfg) es (.powerOn cfg now)).restart = r'
      ∧ r'.Merges (promisesSince (es.flatMap (Event.restartOps cfg)) rs) := by
  obtain ⟨rs, r', hrun, hmerges⟩ :=
    Restart.Merges.answers _ (Restart.merges_nil (r := (State.powerOn cfg now).restart) rfl) hfits
  obtain ⟨rs', hrs'⟩ := restart_run cfg es (.powerOn cfg now)
  obtain ⟨-, hend⟩ := Prod.mk.inj (Option.some.inj (hrs'.symm.trans hrun))
  exact ⟨rs, r', hrun, hend, hmerges⟩

/-! ## The restart block -/

/-- The commanded and simulated values of a state. -/
structure Simulated where
  analogInput1Value : BinaryFormat.binary32.Value
  outputs : Output → Commandable
  liftOutOfService : Bool
  liftPassengerAlarm : Bool
  escalatorOutOfService : Bool
  escalatorPassengerAlarm : Bool
  escalatorPowerMode : Bool
  liftCar : LiftCar
  lastLandingCallControl : LastLandingCallControl

def State.simulated (s : State) : Simulated where
  analogInput1Value := s.analogInput1Value
  outputs := s.outputs
  liftOutOfService := s.liftOutOfService
  liftPassengerAlarm := s.liftPassengerAlarm
  escalatorOutOfService := s.escalatorOutOfService
  escalatorPassengerAlarm := s.escalatorPassengerAlarm
  escalatorPowerMode := s.escalatorPowerMode
  liftCar := s.liftCar
  lastLandingCallControl := s.lastLandingCallControl

theorem simulated_coldstart (cfg : Config) (now : ℤ) (s : State) :
    s.coldstart.simulated = (State.powerOn cfg now).simulated := rfl

/-- A firing says which values it resets. -/
theorem simulated_restartBlock (cfg : Config) (now : ℤ) (nowMs : ℕ) (s : State) :
    (restartBlock nowMs s).1.simulated
      = if (s.restart.due nowMs).1 = some .cold then (State.powerOn cfg now).simulated
        else s.simulated := by
  rw [restartBlock]
  rcases hdue : (s.restart.due nowMs).1 with _ | _ | _
  · rw [if_neg (by simp)]
    rfl
  · rw [if_neg (by simp)]
    rfl
  · rw [if_pos rfl]
    exact simulated_coldstart cfg now _

/-- No firing touches the created objects, Ivory or the clock offset. -/
theorem kept_restartBlock (nowMs : ℕ) (s : State) :
    (restartBlock nowMs s).1.createdAnalogValues = s.createdAnalogValues
      ∧ (restartBlock nowMs s).1.ivory = s.ivory
      ∧ (restartBlock nowMs s).1.clockOffsetSeconds = s.clockOffsetSeconds := by
  rw [restartBlock]
  rcases (s.restart.due nowMs).1 with _ | _ | _
  all_goals exact ⟨rfl, rfl, rfl⟩

/-- **A deferred restart fires once, at the earliest promise, with the strongest kind.**  After any
run of requests and polls from a state with nothing pending, a poll fires exactly if its time is at
or past one of the promises made since the last firing, it reports Cold exactly if one of them was
Cold, and nothing is pending after it.  In the main loop a Cold firing puts every commanded and
simulated value back to power-on, any other outcome leaves them, and none touches the created
objects, Ivory or the clock offset. -/
theorem restart_fires (ops : List RestartOp) {r : Restart} (hr : r.pending = false)
    (hfits : ∀ op ∈ ops, op.Fits) :
    (∃ rs r', answers RestartOp.perform ops r = some (rs, r')
      ∧ ∀ nowMs,
        ((r'.due nowMs).1 ≠ none ↔ ∃ p ∈ promisesSince ops rs, p.dueAtMs ≤ nowMs)
        ∧ ∀ kind, (r'.due nowMs).1 = some kind →
          (kind = .cold ↔ ∃ p ∈ promisesSince ops rs, p.kind = .cold)
          ∧ (r'.due nowMs).2.pending = false)
    ∧ ∀ (cfg : Config) (now : ℤ) (nowMs : ℕ) (s : State),
      ((restartBlock nowMs s).1.restart = (s.restart.due nowMs).2)
      ∧ (restartBlock nowMs s).1.simulated
        = (if (s.restart.due nowMs).1 = some .cold then (State.powerOn cfg now).simulated
          else s.simulated)
      ∧ (restartBlock nowMs s).1.createdAnalogValues = s.createdAnalogValues
      ∧ (restartBlock nowMs s).1.ivory = s.ivory
      ∧ (restartBlock nowMs s).1.clockOffsetSeconds = s.clockOffsetSeconds := by
  refine ⟨?_, fun cfg now nowMs s => ⟨restart_restartBlock nowMs s,
    simulated_restartBlock cfg now nowMs s, kept_restartBlock nowMs s⟩⟩
  obtain ⟨rs, r', hrun, hmerges⟩ := Restart.Merges.answers ops (Restart.merges_nil hr) hfits
  exact ⟨rs, r', hrun, hmerges.due⟩

/-- A Warm request merged with a later Cold one: Cold, at the Warm one's deadline. -/
theorem restart_fires_merged :
    ∃ r', answers RestartOp.perform
        [.request 0 .warm 1000, .request 400 .cold 1000, .poll 500] {}
          = some ([none, none, none], r')
      ∧ (r'.due 999).1 = none ∧ (r'.due 1000).1 = some .cold := by
  obtain ⟨rs, r', hrun, hdue⟩ := (restart_fires
    [.request 0 .warm 1000, .request 400 .cold 1000, .poll 500] (r := {}) rfl
    (by simp [RestartOp.Fits])).1
  obtain ⟨rfl, rfl⟩ := Prod.mk.inj (Option.some.inj hrun)
  refine ⟨_, rfl, ?_, ?_⟩
  · exact not_not.mp fun h => absurd ((hdue 999).1.mp h) (by decide)
  · obtain ⟨kind, hkind⟩ := Option.ne_none_iff_exists'.mp ((hdue 1000).1.mpr (by decide))
    rw [hkind, (((hdue 1000).2 kind hkind).1.mpr (by decide))]

end Controller
