import ElevatorController.Model.Callbacks
import ElevatorController.Machinery.Runs

/-!
# Model/MainLoop — what the main loop does between two ticks of the stack

    while (running) { Tick;  apply a restore;  LiftCarTick;  flip the alarm;  restart;  poll a key }

Each block is an `Action`: the state it leaves and the calls it makes into the stack.  Times are
arguments.
-/

namespace Controller

open BinaryFormat

/-! ## The blocks -/

/-- The restore block: apply the staged configuration, once. -/
def restoreBlock (addObject : ℕ → Bool) (s : State) : State × List StackCall :=
  if s.restorePending then
    let applied :=
      applyRestoredConfiguration addObject s.restoredAnalogValues s.createdAnalogValues
    ({ s with restorePending := false, createdAnalogValues := applied.1 }, applied.2)
  else (s, [])

/-- `LiftCarTick`. -/
def liftCarTick (now : ℤ) (s : State) : State × List StackCall :=
  ({ s with liftCar := (s.liftCar.tick now).1 }, (s.liftCar.tick now).2)

/-- The simulated Passenger_Alarm, at a wall-clock time. -/
def passengerAlarmBlock (cfg : Config) (now : ℤ) (s : State) : State × List StackCall :=
  if cfg.simulatedAlarms ∧ now - s.lastAlarmToggle ≥ cfg.passengerAlarmPeriodSeconds then
    ({ s with liftPassengerAlarm := !s.liftPassengerAlarm, lastAlarmToggle := now },
      [.updateValue objectTypeLift liftInstance propertyIdentifierPassengerAlarm])
  else (s, [])

/-- `RestartDue`, at a monotonic time in milliseconds: the kind that is due, cleared as it is
reported. -/
def Restart.due (nowMs : ℕ) (r : Restart) : Option RestartKind × Restart :=
  if ¬ r.pending ∨ nowMs < r.dueAtMs then (none, r)
  else (some r.kind, { r with pending := false })

/-- COLDSTART: every commanded and simulated value back to its power-on state. -/
def State.coldstart (s : State) : State :=
  { s with
    analogInput1Value := analogInput1AtPowerOn
    outputs := outputAtPowerOn
    liftOutOfService := false
    liftPassengerAlarm := false
    escalatorOutOfService := false
    escalatorPassengerAlarm := false
    escalatorPowerMode := true
    liftCar := {}
    lastLandingCallControl := {} }

/-- The restart block. -/
def restartBlock (nowMs : ℕ) (s : State) : State × List StackCall :=
  let s' := { s with restart := (s.restart.due nowMs).2 }
  match (s.restart.due nowMs).1 with
  | none => (s', [])
  | some .cold => (s'.coldstart, [.sendIAm])
  | some .warm => (s', [.sendIAm])

inductive KeyCommand where
  | none
  | help
  | quit
  | arrowUp
  | arrowDown
  | demoAdvance
  | discoverRemote
  deriving DecidableEq

/-- `1.1f`. -/
def analogInput1Nudge : binary32.Value := binary32.round (11 / 10)

/-- `-1.1f`. -/
def analogInput1NudgeDown : binary32.Value := binary32.round (-(11 / 10))

/-- Analog Input 1 nudged. -/
def nudge (step : binary32.Value) (s : State) : State × List StackCall :=
  ({ s with analogInput1Value := s.analogInput1Value.add step },
    [.updateValue objectTypeAnalogInput analogInputInstance propertyIdentifierPresentValue])

/-- The key block: only the arrow keys change a value the application holds. -/
def keyBlock (key : KeyCommand) (s : State) : State × List StackCall :=
  match key with
  | .arrowUp => nudge analogInput1Nudge s
  | .arrowDown => nudge analogInput1NudgeDown s
  | _ => (s, [])

/-! ## Actions, events and runs -/

/-- An action the main loop takes on its own. -/
inductive Action where
  | restore (addObject : ℕ → Bool)
  | liftCarTick (now : ℤ)
  | passengerAlarm (now : ℤ)
  | restart (nowMs : ℕ)
  | key (command : KeyCommand)

/-- The state an action leaves, and its calls into the stack. -/
def Action.perform (cfg : Config) (s : State) : Action → State × List StackCall
  | .restore addObject => restoreBlock addObject s
  | .liftCarTick now => Controller.liftCarTick now s
  | .passengerAlarm now => passengerAlarmBlock cfg now s
  | .restart nowMs => restartBlock nowMs s
  | .key command => keyBlock command s

/-- What may happen to the application: a request the stack delivers, or an action of the main
loop. -/
inductive Event where
  | request (r : Request)
  | action (a : Action)

/-- One event.  No state of the program follows an outcome C leaves undefined; the run stays where
it was. -/
def Event.step (cfg : Config) (s : State) : Event → State
  | .request r => ((r.perform cfg s).map Prod.snd).getD s
  | .action a => (a.perform cfg s).1

/-- A state the application can be in after some events, from power-on. -/
def Reachable (cfg : Config) (s : State) : Prop :=
  ∃ (now : ℤ) (es : List Event), s = Runs.run (Event.step cfg) es (.powerOn cfg now)

theorem Reachable.step {cfg : Config} {s : State} (h : Reachable cfg s) (e : Event) :
    Reachable cfg (e.step cfg s) := by
  obtain ⟨now, es, rfl⟩ := h
  exact ⟨now, es ++ [e], (Runs.run_concat _ es e _).symm⟩

/-- **What holds at power-on and survives every event holds of every reachable state.** -/
theorem Reachable.invariant {cfg : Config} {P : State → Prop}
    (hinit : ∀ now, P (.powerOn cfg now)) (hstep : ∀ s e, P s → P (Event.step cfg s e))
    {s : State} (h : Reachable cfg s) : P s := by
  obtain ⟨now, es, rfl⟩ := h
  exact Runs.run_invariant hstep es (hinit now)

end Controller
