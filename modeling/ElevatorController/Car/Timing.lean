import ElevatorController.Car.Service
import ElevatorController.Machinery.Metronome

/-!
# Car/Timing — a trip keeps time with its departure, and the door with its opening

    departure at t:   floor k at the first tick from t + k · 2000 ms on
    door opened at t: closed at the first tick from t + 3000 ms on

A departure sets the deadline from the clock, and a floor passed advances it by addition: the car of
a trip is a metronome's (`OnTrip.tick`), so late ticks delay a floor and not the floors after it.
-/

namespace Controller

/-- The travel time between adjacent floors, on the steady clock. -/
def floorPeriod : ℤ := milliseconds liftMillisecondsPerFloor

/-- The time the door stays open, on the steady clock. -/
def doorDwell : ℤ := milliseconds liftDoorDwellMilliseconds

theorem floorPeriod_pos : 0 < floorPeriod := by decide

/-- The time of an event that is a tick. -/
def CarEvent.tickTime : CarEvent → Option ℤ
  | .tick now => some now
  | _ => none

/-- The times of the ticks among some events. -/
def ticks (es : List CarEvent) : List ℤ := es.filterMap CarEvent.tickTime

theorem ticks_concat_tick (es : List CarEvent) (now : ℤ) :
    ticks (es ++ [.tick now]) = ticks es ++ [now] := List.filterMap_append

theorem ticks_concat_of_not_tick (es : List CarEvent) {e : CarEvent} (he : e.tickTime = none) :
    ticks (es ++ [e]) = ticks es := by
  rw [ticks, List.filterMap_append, List.filterMap_cons_none he, List.filterMap_nil,
    List.append_nil, ← ticks]

/-- A landing-call write moves nothing of the car but its calls. -/
theorem liftCar_write (cfg : Config) (s : State) (w : LandingCallWrite) :
    ∃ calls, (CarEvent.step cfg s (.write w)).liftCar = { s.liftCar with calls := calls } := by
  rw [CarEvent.step]
  obtain hw | ⟨call, car, -, hadd, hw⟩ := setElevatorGroupLandingCallControl_cases cfg w s
  · rw [hw]
    exact ⟨s.liftCar.calls, rfl⟩
  · rw [hw]
    obtain ⟨-, rfl⟩ | ⟨-, hroom, rfl⟩ := LiftCar.addCall_eq_some.mp hadd
    · exact ⟨s.liftCar.calls, rfl⟩
    · exact ⟨_, rfl⟩

namespace LiftCar

variable {car : LiftCar} {floor : ℕ} {t now : ℤ} {j : ℕ}

/-- The car arrives at the next floor at this tick. -/
def Arrives (now : ℤ) (car : LiftCar) : Prop := car.phase = .moving ∧ car.phaseDeadline ≤ now

/-- **Every arrival is one floor on.** -/
theorem Invariant.nextFloor_adjacent (h : car.Invariant) (hphase : car.phase = .moving) :
    (car.movingDirection = liftCarDirectionUp ∧ car.nextFloor = car.position + 1)
      ∨ (car.movingDirection = liftCarDirectionDown ∧ car.nextFloor + 1 = car.position) := by
  obtain ⟨c, -, -, hc, hahead⟩ := h.head hphase
  rcases nextFloor_of_ahead h.highest hc.highest hahead with ⟨hdir, hnext, -⟩ | ⟨hdir, hnext, -⟩
  · exact Or.inl ⟨hdir, hnext⟩
  · exact Or.inr ⟨hdir, hnext⟩

/-- The position after a tick: the next floor on arrival, else where it was. -/
theorem position_tick (now : ℤ) (car : LiftCar) :
    (car.Arrives now → (car.tick now).1.position = car.nextFloor)
      ∧ (¬ car.Arrives now → (car.tick now).1.position = car.position) := by
  have hticks := tick_ticks now car
  revert hticks
  generalize car.tick now = r
  intro hticks
  rw [Arrives]
  cases hticks with
  | wait h =>
    refine ⟨fun ⟨hphase, hdue⟩ => ?_, fun _ => rfl⟩
    rcases h with ⟨hidle, -⟩ | ⟨-, hlt⟩
    · exact absurd (hphase.symm.trans hidle) nofun
    · exact absurd hdue (not_le.mpr hlt)
  | opens hphase => exact ⟨fun h => absurd (hphase.symm.trans h.1) nofun, fun _ => rfl⟩
  | departs hphase => exact ⟨fun h => absurd (hphase.symm.trans h.1) nofun, fun _ => rfl⟩
  | stops hphase hdue => exact ⟨fun _ => rfl, fun h => absurd ⟨hphase, hdue⟩ h⟩
  | passes hphase hdue => exact ⟨fun _ => rfl, fun h => absurd ⟨hphase, hdue⟩ h⟩
  | closes hphase => exact ⟨fun h => absurd (hphase.symm.trans h.1) nofun, fun _ => rfl⟩

/-! ## A trip -/

/-- The car is on a trip that departed from a floor at a time, and has gone `j` floors of it. -/
structure OnTrip (floor : ℕ) (t : ℤ) (j : ℕ) (car : LiftCar) : Prop where
  phase : car.phase = .moving
  deadline : car.phaseDeadline = t + floorPeriod * (j + 1)
  way : (car.movingDirection = liftCarDirectionUp ∧ car.position = floor + j)
    ∨ (car.movingDirection = liftCarDirectionDown ∧ car.position + j = floor)

theorem OnTrip.distance_eq (h : car.OnTrip floor t j) : car.distance floor = j := by
  rw [distance]
  rcases h.way with ⟨-, hpos⟩ | ⟨-, hpos⟩ <;> omega

theorem OnTrip.setCalls (h : car.OnTrip floor t j) (calls : Buffer LandingCall maxLandingCalls) :
    OnTrip floor t j { car with calls := calls } := ⟨h.phase, h.deadline, h.way⟩

/-- A departure begins a trip. -/
theorem onTrip_depart (t : ℤ) (hlen : 0 < car.calls.len) :
    OnTrip car.position t 0 (car.depart t hlen).1 where
  phase := rfl
  deadline := by
    rw [Nat.cast_zero, zero_add, mul_one]
    rfl
  way := by
    simp only [depart]
    split
    · exact Or.inl ⟨rfl, rfl⟩
    · exact Or.inr ⟨rfl, rfl⟩

/-- A tick at which an idle car begins to move is a departure. -/
theorem onTrip_of_tick (hidle : car.phase = .idle) (hmoving : (car.tick t).1.phase = .moving) :
    OnTrip car.position t 0 (car.tick t).1 := by
  have hticks := tick_ticks t car
  revert hticks hmoving
  generalize car.tick t = r
  intro hmoving hticks
  cases hticks with
  | wait => exact absurd (hidle.symm.trans hmoving) nofun
  | opens => exact absurd hmoving nofun
  | departs _ hlen => exact onTrip_depart t hlen
  | stops hphase => exact absurd (hphase.symm.trans hidle) nofun
  | passes hphase => exact absurd (hphase.symm.trans hidle) nofun
  | closes hphase => exact absurd (hphase.symm.trans hidle) nofun

/-- **A tick of a trip is a tick of the metronome**: the floors gone are its beats. -/
theorem OnTrip.tick (h : car.OnTrip floor t j) (hinv : car.Invariant) (now : ℤ) :
    (car.tick now).1.distance floor = Metronome.beat floorPeriod t j now
      ∧ ((car.tick now).1.phase = .moving →
        OnTrip floor t (Metronome.beat floorPeriod t j now) (car.tick now).1) := by
  have hnext : (car.movingDirection = liftCarDirectionUp ∧ car.nextFloor = floor + (j + 1))
      ∨ (car.movingDirection = liftCarDirectionDown ∧ car.nextFloor + (j + 1) = floor) := by
    rcases hinv.nextFloor_adjacent h.phase with ⟨hdir, hnext⟩ | ⟨hdir, hnext⟩
    · rcases h.way with ⟨-, hpos⟩ | ⟨hdown, -⟩
      · exact Or.inl ⟨hdir, by omega⟩
      · exact absurd (hdir.symm.trans hdown) (by decide)
    · rcases h.way with ⟨hup, -⟩ | ⟨-, hpos⟩
      · exact absurd (hdir.symm.trans hup) (by decide)
      · exact Or.inr ⟨hdir, by omega⟩
  have hreached : ∀ c : LiftCar, c.position = car.nextFloor → c.distance floor = j + 1 := by
    intro c hc
    rw [distance, hc]
    rcases hnext with ⟨-, heq⟩ | ⟨-, heq⟩ <;> omega
  have hticks := tick_ticks now car
  revert hticks
  generalize car.tick now = r
  intro hticks
  rw [Metronome.beat, ← h.deadline]
  cases hticks with
  | wait hwait =>
    have hlt : now < car.phaseDeadline := by
      rcases hwait with ⟨hidle, -⟩ | ⟨-, hlt⟩
      · exact absurd (h.phase.symm.trans hidle) (by decide)
      · exact hlt
    rw [if_neg (not_le.mpr hlt)]
    exact ⟨h.distance_eq, fun _ => h⟩
  | opens hphase => exact absurd (h.phase.symm.trans hphase) (by decide)
  | departs hphase => exact absurd (h.phase.symm.trans hphase) (by decide)
  | stops _ hdue =>
    rw [if_pos hdue]
    exact ⟨hreached _ rfl, by rintro ⟨⟩⟩
  | passes _ hdue =>
    rw [if_pos hdue]
    refine ⟨hreached _ rfl, fun _ => ⟨h.phase, ?_, hnext⟩⟩
    change car.phaseDeadline + floorPeriod = _
    rw [h.deadline]
    push_cast
    ring
  | closes hphase => exact absurd (h.phase.symm.trans hphase) (by decide)

/-! ## An open door -/

/-- The door was opened at a time, and has not closed. -/
structure OpenedAt (t : ℤ) (car : LiftCar) : Prop where
  phase : car.phase = .doorOpen
  deadline : car.phaseDeadline = t + doorDwell

/-- A tick that opens the door. -/
theorem openedAt_of_tick (hshut : car.phase ≠ .doorOpen)
    (hopen : (car.tick t).1.phase = .doorOpen) : OpenedAt t (car.tick t).1 := by
  have hticks := tick_ticks t car
  revert hticks hopen
  generalize car.tick t = r
  intro hopen hticks
  cases hticks with
  | wait => exact absurd hopen hshut
  | opens => exact ⟨rfl, rfl⟩
  | departs => exact absurd hopen nofun
  | stops => exact ⟨rfl, rfl⟩
  | passes hphase => exact absurd (hphase.symm.trans hopen) nofun
  | closes hphase => exact absurd hphase hshut

/-- A tick before the dwell is over leaves the door open. -/
theorem OpenedAt.tick_early (h : car.OpenedAt t) (hearly : now < t + doorDwell) :
    (car.tick now).1 = car := by
  have hdue : ¬ car.Due now := by
    rw [Due, h.phase, h.deadline]
    exact not_or.mpr ⟨by rintro ⟨⟩, not_le.mpr hearly⟩
  rw [tick_of_not_due hdue]

/-- A tick from then on closes it. -/
theorem OpenedAt.tick_late (h : car.OpenedAt t) (hlate : t + doorDwell ≤ now) :
    (car.tick now).1 = car.closeDoor.1 := by
  rw [tick, h.phase]
  dsimp only
  rw [h.deadline, if_neg (not_lt.mpr hlate)]

end LiftCar

/-! ## Runs -/

section Runs

variable {cfg : Config} {s : State} {t : ℤ}

/-- **A trip keeps time with its departure**: the floors gone are the beats of the ticks since. -/
theorem onTrip_run {floor : ℕ} (hinv : s.liftCar.Invariant) (h : s.liftCar.OnTrip floor t 0)
    (es : List CarEvent)
    (hmoving : ∀ q, q <+: es → (Runs.run (CarEvent.step cfg) q s).liftCar.phase = .moving) :
    (Runs.run (CarEvent.step cfg) es s).liftCar.OnTrip floor t
      (Metronome.beats floorPeriod t (ticks es)) := by
  induction es using List.reverseRecOn with
  | nil => exact h
  | append_singleton es e ih =>
    have htrip := ih fun q hq => hmoving q (hq.trans (List.prefix_append _ _))
    have hphase := hmoving _ List.prefix_rfl
    rw [Runs.run_concat] at hphase ⊢
    cases e with
    | write w =>
      obtain ⟨calls, hcalls⟩ := liftCar_write cfg (Runs.run (CarEvent.step cfg) es s) w
      rw [ticks_concat_of_not_tick _ rfl, hcalls]
      exact htrip.setCalls calls
    | tick now =>
      have hinv' : (Runs.run (CarEvent.step cfg) es s).liftCar.Invariant :=
        CarEvent.invariant_run_of cfg hinv es
      rw [ticks_concat_tick, Metronome.beats_concat]
      exact (htrip.tick hinv' now).2 hphase
    | coldstart => exact absurd hphase nofun

/-- The floors gone after one more tick. -/
theorem distance_run_tick {floor : ℕ} (hinv : s.liftCar.Invariant)
    (h : s.liftCar.OnTrip floor t 0) (es : List CarEvent) (now : ℤ)
    (hmoving : ∀ q, q <+: es → (Runs.run (CarEvent.step cfg) q s).liftCar.phase = .moving) :
    (Runs.run (CarEvent.step cfg) (es ++ [.tick now]) s).liftCar.distance floor
      = Metronome.beats floorPeriod t (ticks es ++ [now]) := by
  have hinv' : (Runs.run (CarEvent.step cfg) es s).liftCar.Invariant :=
    CarEvent.invariant_run_of cfg hinv es
  rw [Runs.run_concat, Metronome.beats_concat]
  exact ((onTrip_run hinv h es hmoving).tick hinv' now).1

/-- **An open door stays open until a tick is late enough.** -/
theorem openedAt_run (h : s.liftCar.OpenedAt t) (es : List CarEvent)
    (hes : ∀ e ∈ es, e ≠ .coldstart) (hearly : ∀ u ∈ ticks es, u < t + doorDwell) :
    (Runs.run (CarEvent.step cfg) es s).liftCar.OpenedAt t := by
  induction es using List.reverseRecOn with
  | nil => exact h
  | append_singleton es e ih =>
    have hopen := ih (fun e he => hes e (List.mem_append_left _ he)) fun u hu => hearly u (by
      rw [ticks, List.filterMap_append]
      exact List.mem_append_left _ hu)
    rw [Runs.run_concat]
    cases e with
    | write w =>
      obtain ⟨calls, hcalls⟩ := liftCar_write cfg (Runs.run (CarEvent.step cfg) es s) w
      rw [hcalls]
      exact ⟨hopen.phase, hopen.deadline⟩
    | tick now =>
      have hnow := hearly now (by
        rw [ticks_concat_tick]
        exact List.mem_append_right _ (List.mem_singleton_self _))
      have htick : (CarEvent.step cfg (Runs.run (CarEvent.step cfg) es s) (.tick now)).liftCar
          = (Runs.run (CarEvent.step cfg) es s).liftCar := hopen.tick_early hnow
      rw [htick]
      exact hopen
    | coldstart => exact absurd rfl (hes _ (List.mem_append_right _ (List.mem_singleton_self _)))

/-- **A trip is on time**: a floor is reached from its time on, and at the first tick then if the
ticks are paced. -/
theorem trip_on_time (hinv : s.liftCar.Invariant) (hidle : s.liftCar.phase = .idle) (now : ℤ)
    (p : List CarEvent) (hmoving : ∀ q, q <+: p →
      (Runs.run (CarEvent.step cfg) q (CarEvent.step cfg s (.tick t))).liftCar.phase = .moving) :
    let floors := fun later => (Runs.run (CarEvent.step cfg) later
      (CarEvent.step cfg s (.tick t))).liftCar.distance s.liftCar.position
    (∀ k : ℕ, floors p + 1 = k → floors (p ++ [.tick now]) = k → t + floorPeriod * k ≤ now)
    ∧ (Metronome.Paced floorPeriod t (ticks p ++ [now]) → ∀ k : ℕ, 0 < k →
      ((floors p + 1 = k ∧ floors (p ++ [.tick now]) = k)
        ↔ (∀ u ∈ ticks p, u < t + floorPeriod * k) ∧ t + floorPeriod * k ≤ now)) := by
  intro floors
  have hinv' := CarEvent.invariant_step cfg s (.tick t) hinv
  have htrip : (CarEvent.step cfg s (.tick t)).liftCar.OnTrip s.liftCar.position t 0 :=
    LiftCar.onTrip_of_tick hidle (hmoving [] List.nil_prefix)
  have hbefore : floors p = Metronome.beats floorPeriod t (ticks p) :=
    (onTrip_run hinv' htrip p hmoving).distance_eq
  have hthen : floors (p ++ [.tick now]) = Metronome.beats floorPeriod t (ticks p ++ [now]) :=
    distance_run_tick hinv' htrip p now hmoving
  rw [hbefore, hthen]
  refine ⟨fun k hk hk' => ?_, fun hpaced k hk => ?_⟩
  · have hdue := Metronome.le_of_beats_concat (hk'.trans hk.symm)
    rw [← hk, Nat.cast_succ]
    exact hdue
  · exact Metronome.beats_concat_iff floorPeriod_pos hpaced hk

/-- **A door is open for its dwell time**, and closed by the first tick after it. -/
theorem door_dwells (hinv : s.liftCar.Invariant) (hshut : s.liftCar.phase ≠ .doorOpen)
    (hopen : (CarEvent.step cfg s (.tick t)).liftCar.phase = .doorOpen) (p : List CarEvent)
    (hp : ∀ e ∈ p, e ≠ .coldstart) (hearly : ∀ u ∈ ticks p, u < t + doorDwell) :
    (Runs.run (CarEvent.step cfg) p (CarEvent.step cfg s (.tick t))).liftCar.doorStatus
        = doorStatusOpened
    ∧ ∀ now, t + doorDwell ≤ now →
      (Runs.run (CarEvent.step cfg) (p ++ [.tick now])
        (CarEvent.step cfg s (.tick t))).liftCar.doorStatus = doorStatusClosed := by
  have hstill : (Runs.run (CarEvent.step cfg) p
      (CarEvent.step cfg s (.tick t))).liftCar.OpenedAt t :=
    openedAt_run (LiftCar.openedAt_of_tick hshut hopen) p hp hearly
  have hinv' : (Runs.run (CarEvent.step cfg) p
      (CarEvent.step cfg s (.tick t))).liftCar.Invariant :=
    CarEvent.invariant_run_of cfg (CarEvent.invariant_step cfg s (.tick t) hinv) p
  refine ⟨(hinv'.doorOpen hstill.phase).2, fun now hlate => ?_⟩
  rw [Runs.run_concat]
  exact congrArg LiftCar.doorStatus (hstill.tick_late hlate)

/-- **The position changes at an arrival**, by one floor, and at no other tick. -/
theorem position_tick_step (hinv : s.liftCar.Invariant) (now : ℤ) :
    (s.liftCar.Arrives now →
      (CarEvent.step cfg s (.tick now)).liftCar.position = s.liftCar.position + 1
        ∨ (CarEvent.step cfg s (.tick now)).liftCar.position + 1 = s.liftCar.position)
    ∧ (¬ s.liftCar.Arrives now →
      (CarEvent.step cfg s (.tick now)).liftCar.position = s.liftCar.position) := by
  obtain ⟨harrival, hstay⟩ := LiftCar.position_tick now s.liftCar
  refine ⟨fun harrives => ?_, hstay⟩
  change (s.liftCar.tick now).1.position = _ ∨ (s.liftCar.tick now).1.position + 1 = _
  rw [harrival harrives]
  exact (hinv.nextFloor_adjacent harrives.1).imp And.right And.right

end Runs

/-- **Car timing does not drift.**  After any run from power-on:

* in a trip that departs at `t`, floor `k` is reached at a tick from `t + k · 2000` ms on, and,
  where no two ticks are more than 2000 ms apart, at the first such tick;
* a door opened at `t` is open until the first tick from `t + 3000` ms on, which closes it;
* the position changes by one floor at each arrival, and at no other event. -/
theorem car_timing_does_not_drift (cfg : Config) (start : ℤ) (es : List CarEvent) :
    let car := fun later : List CarEvent =>
      (Runs.run (CarEvent.step cfg) (es ++ later) (.powerOn cfg start)).liftCar
    (∀ (t now : ℤ) (p : List CarEvent),
      (car []).phase = .idle → (∀ q, q <+: p → (car (.tick t :: q)).phase = .moving) →
      let floors := fun later => (car (.tick t :: later)).distance (car []).position
      (∀ k : ℕ, floors p + 1 = k → floors (p ++ [.tick now]) = k → t + floorPeriod * k ≤ now)
      ∧ (Metronome.Paced floorPeriod t (ticks p ++ [now]) → ∀ k : ℕ, 0 < k →
        ((floors p + 1 = k ∧ floors (p ++ [.tick now]) = k)
          ↔ (∀ u ∈ ticks p, u < t + floorPeriod * k) ∧ t + floorPeriod * k ≤ now)))
    ∧ (∀ (t : ℤ) (p : List CarEvent),
      (car []).phase ≠ .doorOpen → (car [.tick t]).phase = .doorOpen →
      (∀ e ∈ p, e ≠ .coldstart) → (∀ u ∈ ticks p, u < t + doorDwell) →
      (car (.tick t :: p)).doorStatus = doorStatusOpened
      ∧ ∀ now, t + doorDwell ≤ now →
        (car (.tick t :: (p ++ [.tick now]))).doorStatus = doorStatusClosed)
    ∧ (∀ w, (car [.write w]).position = (car []).position)
    ∧ (∀ now, ((car []).Arrives now →
        (car [.tick now]).position = (car []).position + 1
          ∨ (car [.tick now]).position + 1 = (car []).position)
      ∧ (¬ (car []).Arrives now → (car [.tick now]).position = (car []).position)) := by
  intro car
  have hnil : car [] = (Runs.run (CarEvent.step cfg) es (.powerOn cfg start)).liftCar := by
    simp only [car, List.append_nil]
  have hafter : ∀ e later, car (e :: later) = (Runs.run (CarEvent.step cfg) later
      (CarEvent.step cfg (Runs.run (CarEvent.step cfg) es (.powerOn cfg start)) e)).liftCar := by
    intro e later
    simp only [car, Runs.run_append, Runs.run_cons]
  have hinv := CarEvent.invariant_run cfg start es
  revert hinv hnil hafter
  generalize Runs.run (CarEvent.step cfg) es (.powerOn cfg start) = s
  intro hnil hafter hinv
  refine ⟨fun t now p hidle hmoving => ?_, fun t p hshut hopen hp hearly => ?_, fun w => ?_,
    fun now => ?_⟩
  · simp only [hafter, hnil] at hidle hmoving ⊢
    exact trip_on_time hinv hidle now p hmoving
  · simp only [hafter, hnil] at hshut hopen ⊢
    exact door_dwells hinv hshut hopen p hp hearly
  · obtain ⟨calls, hcalls⟩ := liftCar_write cfg s w
    rw [hafter, hnil, Runs.run_nil, hcalls]
  · simp only [hafter, hnil]
    exact @position_tick_step cfg s hinv now

end Controller
