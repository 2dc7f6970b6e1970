import ElevatorController.Car.Invariant

/-!
# Car/Calls — every accepted landing call is answered once, at its floor

    accepted:  ⟨4,↑⟩  ⟨7,↓⟩  ⟨4,↓⟩  ⟨9,↓⟩
    answered:    ×             ×              ▸  listed: ⟨7,↓⟩ ⟨9,↓⟩

A `Ledger` is kept from what can be seen of the car alone: it enters a call when a write of one not
yet listed is accepted, and strikes every call of a floor when the door opens there.  The list the
car keeps in place *is* the ledger's open entries, in order.
-/

namespace Controller

/-! ## The ledger -/

/-- A call that was accepted, and whether it has been answered. -/
structure LedgerEntry where
  call : LandingCall
  answered : Bool
  deriving DecidableEq

/-- The calls accepted since power-on or the last COLDSTART, in the order of their acceptance. -/
abbrev Ledger : Type := List LedgerEntry

namespace Ledger

/-- The calls not answered yet. -/
def pending (l : Ledger) : List LandingCall := (l.filter fun e => !e.answered).map LedgerEntry.call

/-- Enter a call. -/
def enter (l : Ledger) (call : LandingCall) : Ledger := l ++ [⟨call, false⟩]

/-- Strike every call of a floor. -/
def strike (l : Ledger) (floor : ℕ) : Ledger :=
  l.map fun e => if e.call.floorNumber = floor then { e with answered := true } else e

theorem pending_enter (l : Ledger) (call : LandingCall) :
    (l.enter call).pending = l.pending ++ [call] := by
  simp [pending, enter]

theorem pending_strike (l : Ledger) (floor : ℕ) :
    (l.strike floor).pending = l.pending.filter fun c => c.floorNumber != floor := by
  induction l with
  | nil => rfl
  | cons e l ih =>
    simp only [pending, strike, List.map_cons, List.filter_cons] at ih ⊢
    by_cases hfloor : e.call.floorNumber = floor <;> cases hanswered : e.answered <;>
      simp [hfloor, hanswered, ih]

end Ledger

/-- **The door opens between two states, with the car standing at a floor.** -/
structure LiftCar.OpensDoorAt (floor : ℕ) (before after : LiftCar) : Prop where
  closed : before.doorStatus = doorStatusClosed
  opened : after.doorStatus = doorStatusOpened
  stopped : after.movingDirection = liftCarDirectionStopped
  position : after.position = floor

instance (floor : ℕ) (before after : LiftCar) :
    Decidable (LiftCar.OpensDoorAt floor before after) :=
  decidable_of_iff (before.doorStatus = doorStatusClosed ∧ after.doorStatus = doorStatusOpened
      ∧ after.movingDirection = liftCarDirectionStopped ∧ after.position = floor)
    ⟨fun ⟨h1, h2, h3, h4⟩ => ⟨h1, h2, h3, h4⟩, fun ⟨h1, h2, h3, h4⟩ => ⟨h1, h2, h3, h4⟩⟩

/-- What an observer of one event enters in the ledger. -/
def Ledger.observe (cfg : Config) (s : State) (l : Ledger) (e : CarEvent) : Ledger :=
  let s' := e.step cfg s
  match e with
  | .write w =>
    match w.call with
    | none => l
    | some call =>
      if (setElevatorGroupLandingCallControl cfg w s).1.accepted
          ∧ call ∉ s.liftCar.calls.toList then l.enter call
      else l
  | .tick _ =>
    if s.liftCar.OpensDoorAt s'.liftCar.position s'.liftCar then l.strike s'.liftCar.position
    else l
  | .coldstart => []

/-- The car and its ledger, one event later. -/
def Ledger.step (cfg : Config) (x : State × Ledger) (e : CarEvent) : State × Ledger :=
  (e.step cfg x.1, x.2.observe cfg x.1 e)

/-! ## One event -/

/-- **A tick answers calls only by opening the door at their floor**, and never enters a floor that
has a call without doing so. -/
theorem LiftCar.Invariant.tick_calls {car : LiftCar} (h : car.Invariant) (now : ℤ) :
    (car.OpensDoorAt (car.tick now).1.position (car.tick now).1
        ∧ (car.tick now).1.calls.toList
          = car.calls.toList.filter fun c => c.floorNumber != (car.tick now).1.position)
      ∨ (¬ car.OpensDoorAt (car.tick now).1.position (car.tick now).1
        ∧ (car.tick now).1.calls = car.calls
        ∧ ((car.tick now).1.position ≠ car.position →
          ¬ car.hasCallAt (car.tick now).1.position = true)) := by
  have hticks := tick_ticks now car
  revert hticks
  generalize car.tick now = r
  intro hticks
  cases hticks with
  | wait =>
    refine Or.inr ⟨fun ho => ?_, rfl, fun hne => absurd rfl hne⟩
    exact absurd (ho.closed.symm.trans ho.opened) (by decide)
  | opens hphase =>
    exact Or.inl ⟨⟨(h.idle hphase).2, rfl, rfl, rfl⟩, toList_calls_openDoor now car⟩
  | departs hphase =>
    refine Or.inr ⟨fun ho => ?_, rfl, fun hne => absurd rfl hne⟩
    exact absurd ((h.idle hphase).2.symm.trans ho.opened) (by decide)
  | stops hphase =>
    exact Or.inl ⟨⟨(h.moving hphase).1, rfl, rfl, rfl⟩, toList_calls_openDoor now car.atNextFloor⟩
  | passes hphase _ hcall =>
    refine Or.inr ⟨fun ho => ?_, rfl, fun _ => hcall⟩
    exact absurd ((h.moving hphase).1.symm.trans ho.opened) (by decide)
  | closes =>
    refine Or.inr ⟨fun ho => ?_, rfl, fun hne => absurd rfl hne⟩
    exact absurd ho.opened (by decide : doorStatusClosed ≠ doorStatusOpened)

/-- A write is observed as the call it lists. -/
theorem toList_calls_write (cfg : Config) (w : LandingCallWrite) (s : State) (l : Ledger)
    (h : s.liftCar.calls.toList = l.pending) :
    ((CarEvent.write w).step cfg s).liftCar.calls.toList
      = (l.observe cfg s (.write w)).pending := by
  obtain hw | ⟨call, car, hcall, hadd, hw⟩ := setElevatorGroupLandingCallControl_cases cfg w s
  · have hsame : l.observe cfg s (.write w) = l := by
      simp only [Ledger.observe, hw]
      cases w.call with
      | none => rfl
      | some call => exact if_neg fun hacc => absurd hacc.1 (by simp)
    rw [hsame, CarEvent.step, hw]
    exact h
  obtain ⟨hlisted, rfl⟩ | ⟨hnew, hroom, rfl⟩ := LiftCar.addCall_eq_some.mp hadd
  · have hsame : l.observe cfg s (.write w) = l := by
      simp only [Ledger.observe, hcall]
      exact if_neg fun hacc => hacc.2 hlisted
    rw [hsame, CarEvent.step, hw]
    exact h
  · have henter : l.observe cfg s (.write w) = l.enter call := by
      simp only [Ledger.observe, hcall, hw]
      exact if_pos ⟨rfl, hnew⟩
    rw [henter, Ledger.pending_enter, ← h, CarEvent.step, hw]
    exact Buffer.toList_push _ _ _

/-- **Every event keeps the list equal to the ledger's open entries.** -/
theorem toList_calls_step (cfg : Config) (s : State) (l : Ledger) (e : CarEvent)
    (hinv : s.liftCar.Invariant) (h : s.liftCar.calls.toList = l.pending) :
    (e.step cfg s).liftCar.calls.toList = (l.observe cfg s e).pending := by
  cases e with
  | write w => exact toList_calls_write cfg w s l h
  | coldstart => rfl
  | tick now =>
    change (s.liftCar.tick now).1.calls.toList = _
    obtain ⟨hopens, hcalls⟩ | ⟨hopens, hcalls, -⟩ := hinv.tick_calls now
    · have hstrike : l.observe cfg s (.tick now) = l.strike (s.liftCar.tick now).1.position :=
        if_pos hopens
      rw [hstrike, Ledger.pending_strike, hcalls, h]
    · have hsame : l.observe cfg s (.tick now) = l := if_neg hopens
      rw [hsame, hcalls, h]

/-! ## Runs -/

/-- **No landing call is lost, duplicated, reordered or answered elsewhere.**  After any run of
landing-call writes and ticks from power-on (a COLDSTART starts a new ledger) the listed calls are
the accepted ones less the answered, in acceptance order.  From there a write drops none; a tick
that drops a call opens the door with the car standing at its floor, and drops every call of that
floor and no other; and a tick that brings the car to a floor with a call opens the door there. -/
theorem no_call_lost (cfg : Config) (start : ℤ) (es : List CarEvent) :
    let x := Runs.run (Ledger.step cfg) es (.powerOn cfg start, [])
    let car := x.1.liftCar
    car.calls.toList = x.2.pending
      ∧ (∀ w, car.calls.toList <+: ((CarEvent.write w).step cfg x.1).liftCar.calls.toList)
      ∧ ∀ now, let car' := ((CarEvent.tick now).step cfg x.1).liftCar
        (∀ c ∈ car.calls.toList, c ∉ car'.calls.toList → car.OpensDoorAt c.floorNumber car')
        ∧ (∀ floor, car.OpensDoorAt floor car' →
          car'.calls.toList = car.calls.toList.filter fun c => c.floorNumber != floor)
        ∧ (car'.position ≠ car.position → (∃ c ∈ car.calls.toList, c.floorNumber = car'.position) →
          car.OpensDoorAt car'.position car') := by
  intro x car
  have hrun : x.1.liftCar.Invariant ∧ x.1.liftCar.calls.toList = x.2.pending :=
    Runs.run_invariant
      (P := fun y : State × Ledger =>
        y.1.liftCar.Invariant ∧ y.1.liftCar.calls.toList = y.2.pending)
      (fun y e hy => ⟨CarEvent.invariant_step cfg y.1 e hy.1,
        toList_calls_step cfg y.1 y.2 e hy.1 hy.2⟩)
      es ⟨LiftCar.invariant_powerOn, rfl⟩
  refine ⟨hrun.2, fun w => ?_, fun now => ?_⟩
  · obtain hw | ⟨call, car', hcall, hadd, hw⟩ :=
      setElevatorGroupLandingCallControl_cases cfg w x.1
    · simp only [CarEvent.step, hw]
      exact List.prefix_rfl
    · simp only [CarEvent.step, hw]
      obtain ⟨-, rfl⟩ | ⟨-, hroom, rfl⟩ := LiftCar.addCall_eq_some.mp hadd
      · exact List.prefix_rfl
      · rw [Buffer.toList_push]
        exact List.prefix_append _ _
  · obtain ⟨hopens, hcalls⟩ | ⟨hopens, hcalls, hpass⟩ := hrun.1.tick_calls now
    · refine ⟨fun c hc hgone => ?_, fun floor hfloor => ?_, fun _ _ => hopens⟩
      · have hfloor : c.floorNumber = (car.tick now).1.position := by
          by_contra hne
          refine hgone ?_
          change c ∈ (car.tick now).1.calls.toList
          rw [hcalls]
          exact List.mem_filter.mpr ⟨hc, by simpa using hne⟩
        rw [hfloor]
        exact hopens
      · rw [← hfloor.position]
        exact hcalls
    · refine ⟨fun c hc hgone => ?_, fun floor hfloor => ?_, fun hne hcall => ?_⟩
      · refine absurd ?_ hgone
        change c ∈ (car.tick now).1.calls.toList
        rwa [hcalls]
      · exact absurd (hfloor.position ▸ hfloor) hopens
      · exact absurd (LiftCar.hasCallAt_iff.mpr hcall) (hpass hne)

end Controller
