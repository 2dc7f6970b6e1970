import ElevatorController.Machinery.Notices
import ElevatorController.Car.Tick
import ElevatorController.Outputs.Commands
import ElevatorController.Values.Database

/-!
# Device/Silent — what the main loop changes by itself, and what it tells the stack

The stack learns of a change the application makes by itself only through `BACnetStack_UpdateValue`.
Every block of the main loop that changes a value a client can watch makes that call, but for one:
a COLDSTART puts the power-on values back and calls `SendIAm` only.
-/

namespace Controller

open BinaryFormat Notices

/-! ## Watched values -/

/-- A value clients can be watching. -/
inductive Watched where
  | carPosition
  | carMovingDirection
  | carDoorStatus
  | passengerAlarm
  | analogInput1
  | output (o : Output)
  | analogValue (objectInstance : ℕ)
  deriving DecidableEq

/-- A served value, with its datatype. -/
inductive Datum where
  | unsigned (n : ℕ)
  | enumerated (n : ℕ)
  | boolean (b : Bool)
  | real (v : binary32.Value)
  deriving DecidableEq

/-- The property; the car has one door. -/
def Watched.reference (cfg : Config) : Watched → PropertyReference
  | .carPosition =>
    ⟨cfg.deviceInstance, objectTypeLift, liftInstance, propertyIdentifierCarPosition, none⟩
  | .carMovingDirection =>
    ⟨cfg.deviceInstance, objectTypeLift, liftInstance, propertyIdentifierCarMovingDirection, none⟩
  | .carDoorStatus =>
    ⟨cfg.deviceInstance, objectTypeLift, liftInstance, propertyIdentifierCarDoorStatus, some 1⟩
  | .passengerAlarm =>
    ⟨cfg.deviceInstance, objectTypeLift, liftInstance, propertyIdentifierPassengerAlarm, none⟩
  | .analogInput1 =>
    ⟨cfg.deviceInstance, objectTypeAnalogInput, analogInputInstance,
      propertyIdentifierPresentValue, none⟩
  | .output o => ⟨cfg.deviceInstance, o.objectType, 1, propertyIdentifierPresentValue, none⟩
  | .analogValue objectInstance =>
    ⟨cfg.deviceInstance, objectTypeAnalogValue, objectInstance, propertyIdentifierPresentValue,
      none⟩

/-- The value served: the getter's, or for an output what the stack resolves from the getters. -/
def Watched.served (cfg : Config) (w : Watched) (s : State) : Option Datum :=
  match w with
  | .carPosition => (getPropertyUnsignedInteger cfg s (w.reference cfg)).map .unsigned
  | .carMovingDirection | .carDoorStatus =>
    (getPropertyEnumerated cfg s (w.reference cfg)).map .enumerated
  | .passengerAlarm => (getPropertyBool cfg s (w.reference cfg)).map .boolean
  | .analogInput1 | .analogValue _ => (getPropertyReal cfg s (w.reference cfg)).map .real
  | .output .analog => (analogOutputPresentValue cfg s).map .real
  | .output .binary => (binaryOutputPresentValue cfg s).map .enumerated
  | .output .multiState => (multiStateOutputPresentValue cfg s).map .unsigned

/-- `BACnetStack_UpdateValue` of the property. -/
def Watched.updateValue (cfg : Config) (w : Watched) : StackCall :=
  .updateValue (w.reference cfg).objectType (w.reference cfg).objectInstance
    (w.reference cfg).propertyIdentifier

/-- The action reports every watched value it changes, unless the object is gone. -/
def NoSilentChange (cfg : Config) (s : State) (a : Action) : Prop :=
  Noted (Watched.served cfg) (Watched.updateValue cfg) s (a.perform cfg s).1 (a.perform cfg s).2

/-- The action is a COLDSTART that is due. -/
def Action.IsDueColdstart (s : State) : Action → Prop
  | .restart nowMs => s.restart.pending = true ∧ s.restart.dueAtMs ≤ nowMs ∧ s.restart.kind = .cold
  | _ => False

/-- Every watched value that a COLDSTART resets has its power-on value. -/
structure State.WatchedAtPowerOn (cfg : Config) (s : State) : Prop where
  position : s.liftCar.position = liftStartFloor
  movingDirection : s.liftCar.movingDirection = liftCarDirectionStopped
  doorStatus : s.liftCar.doorStatus = doorStatusClosed
  passengerAlarm : s.liftPassengerAlarm = false
  analogInput1 : s.analogInput1Value = analogInput1AtPowerOn
  analogOutput : analogOutputPresentValue cfg s = some (binary32.round 20)
  binaryOutput : binaryOutputPresentValue cfg s = some 0
  multiStateOutput : multiStateOutputPresentValue cfg s = some 1

variable {cfg : Config} {s s' : State}

/-! ## What is served, by the state's fields -/

theorem served_carPosition (s : State) :
    Watched.carPosition.served cfg s = some (.unsigned s.liftCar.position) := by
  simp [Watched.served, Watched.reference, getPropertyUnsignedInteger, PropertyReference.names,
    objectTypeLift, objectTypeMultiStateInput, objectTypeDevice, objectTypeNetworkPort]

theorem served_carMovingDirection (s : State) :
    Watched.carMovingDirection.served cfg s = some (.enumerated s.liftCar.movingDirection) := by
  simp [Watched.served, Watched.reference, getPropertyEnumerated, PropertyReference.names,
    State.serveOutput, objectTypeLift, objectTypeBinaryInput, objectTypeBinaryOutput,
    objectTypeAnalogInput, objectTypeAnalogOutput, objectTypeNetworkPort, objectTypeElevatorGroup]

theorem served_carDoorStatus (s : State) :
    Watched.carDoorStatus.served cfg s = some (.enumerated s.liftCar.doorStatus) := by
  simp [Watched.served, Watched.reference, getPropertyEnumerated, PropertyReference.names,
    State.serveOutput, objectTypeLift, objectTypeBinaryInput, objectTypeBinaryOutput,
    objectTypeAnalogInput, objectTypeAnalogOutput, objectTypeNetworkPort, objectTypeElevatorGroup,
    propertyIdentifierCarDoorStatus, propertyIdentifierCarMovingDirection, liftNumberOfDoors]

theorem served_passengerAlarm (s : State) :
    Watched.passengerAlarm.served cfg s = some (.boolean s.liftPassengerAlarm) := by
  simp [Watched.served, Watched.reference, getPropertyBool, getCommandable,
    PropertyReference.names, objectTypeLift, objectTypeAnalogOutput, objectTypeBinaryOutput,
    objectTypeMultiStateOutput]

theorem served_analogInput1 (s : State) :
    Watched.analogInput1.served cfg s = some (.real s.analogInput1Value) := by
  simp [Watched.served, Watched.reference, getPropertyReal, PropertyReference.names]

theorem served_analogValue (n : ℕ) (s : State) :
    (Watched.analogValue n).served cfg s = (s.createdAnalogValues.valueOf n).map .real :=
  congrArg (Option.map Datum.real) (getPropertyReal_analogValue cfg s n none)

/-- The getters of a slot and of the Relinquish_Default read the outputs only. -/
theorem served_output_congr (h : s'.outputs = s.outputs) (o : Output) :
    (Watched.output o).served cfg s' = (Watched.output o).served cfg s := by
  cases o <;>
    simp [Watched.served, analogOutputPresentValue, binaryOutputPresentValue,
      multiStateOutputPresentValue, getPropertyBool, getPropertyReal, getPropertyEnumerated,
      getPropertyUnsignedInteger, PropertyReference.names, State.serveOutput, h,
      Output.slotReference, Output.defaultReference, Output.objectType, objectTypeLift,
      objectTypeMultiStateInput, objectTypeDevice, objectTypeNetworkPort, objectTypeAnalogInput,
      objectTypeAnalogOutput, objectTypeBinaryInput, objectTypeBinaryOutput,
      objectTypeMultiStateOutput, objectTypePositiveIntegerValue, objectTypeElevatorGroup,
      objectTypeEscalator, objectTypeCalendar, objectTypeFile, objectTypeAnalogValue]

/-! ## The fields behind the watched values -/

/-- Each field behind a watched value is as before, or its change is reported. -/
structure Reported (cfg : Config) (s s' : State) (calls : List StackCall) : Prop where
  position : s'.liftCar.position = s.liftCar.position
    ∨ Watched.carPosition.updateValue cfg ∈ calls
  movingDirection : s'.liftCar.movingDirection = s.liftCar.movingDirection
    ∨ Watched.carMovingDirection.updateValue cfg ∈ calls
  doorStatus : s'.liftCar.doorStatus = s.liftCar.doorStatus
    ∨ Watched.carDoorStatus.updateValue cfg ∈ calls
  passengerAlarm : s'.liftPassengerAlarm = s.liftPassengerAlarm
    ∨ Watched.passengerAlarm.updateValue cfg ∈ calls
  analogInput1 : s'.analogInput1Value = s.analogInput1Value
    ∨ Watched.analogInput1.updateValue cfg ∈ calls
  outputs : s'.outputs = s.outputs
  analogValues : Noted (fun n t => t.valueOf n) (fun n => (Watched.analogValue n).updateValue cfg)
    s.createdAnalogValues s'.createdAnalogValues calls

theorem Reported.noted {calls : List StackCall} (h : Reported cfg s s' calls) :
    Noted (Watched.served cfg) (Watched.updateValue cfg) s s' calls := by
  intro w hne hsome
  cases w with
  | carPosition =>
    rw [served_carPosition, served_carPosition] at hne
    exact h.position.resolve_left fun heq => hne (by rw [heq])
  | carMovingDirection =>
    rw [served_carMovingDirection, served_carMovingDirection] at hne
    exact h.movingDirection.resolve_left fun heq => hne (by rw [heq])
  | carDoorStatus =>
    rw [served_carDoorStatus, served_carDoorStatus] at hne
    exact h.doorStatus.resolve_left fun heq => hne (by rw [heq])
  | passengerAlarm =>
    rw [served_passengerAlarm, served_passengerAlarm] at hne
    exact h.passengerAlarm.resolve_left fun heq => hne (by rw [heq])
  | analogInput1 =>
    rw [served_analogInput1, served_analogInput1] at hne
    exact h.analogInput1.resolve_left fun heq => hne (by rw [heq])
  | output o => exact absurd (served_output_congr h.outputs o) hne
  | analogValue n =>
    rw [served_analogValue, served_analogValue] at hne
    rw [served_analogValue] at hsome
    refine h.analogValues n (fun heq => hne (congrArg (Option.map Datum.real) heq)) fun hnone => ?_
    exact hsome (congrArg (Option.map Datum.real) hnone)

/-- An action that leaves these fields alone has nothing to report. -/
theorem reported_refl (s : State) (calls : List StackCall) : Reported cfg s s calls where
  position := Or.inl rfl
  movingDirection := Or.inl rfl
  doorStatus := Or.inl rfl
  passengerAlarm := Or.inl rfl
  analogInput1 := Or.inl rfl
  outputs := rfl
  analogValues := noted_of_view_eq fun _ => rfl

/-! ## The car -/

/-- **A tick reports each car property it changes.** -/
theorem reported_liftCarTick (now : ℤ) (s : State) :
    Reported cfg s (liftCarTick now s).1 (liftCarTick now s).2 := by
  have hcar : ∀ r : LiftCar × List StackCall, s.liftCar.Ticks now r →
      Reported cfg s { s with liftCar := r.1 } r.2 := by
    rintro r (h | ⟨hphase, hcall⟩ | ⟨hphase, hlen, hcall⟩ | ⟨hphase, hdue, hcall⟩ |
      ⟨hphase, hdue, hcall⟩ | ⟨hphase, hdue⟩)
    · exact reported_refl s []
    · exact { reported_refl s _ with
        movingDirection := Or.inr List.mem_cons_self
        doorStatus := Or.inr (List.mem_cons_of_mem _ List.mem_cons_self) }
    · exact { reported_refl s _ with movingDirection := Or.inr List.mem_cons_self }
    · exact { reported_refl s _ with
        position := Or.inr List.mem_cons_self
        movingDirection := Or.inr (List.mem_cons_of_mem _ List.mem_cons_self)
        doorStatus :=
          Or.inr (List.mem_cons_of_mem _ (List.mem_cons_of_mem _ List.mem_cons_self)) }
    · exact { reported_refl s _ with position := Or.inr List.mem_cons_self }
    · exact { reported_refl s _ with doorStatus := Or.inr List.mem_cons_self }
  exact hcar _ (s.liftCar.tick_ticks now)

/-! ## The restored configuration -/

namespace CreatedAnalogValues

variable {t : CreatedAnalogValues}

/-- A call of `BACnetStack_UpdateValue` for each Analog Value that changed. -/
abbrev Reports (t t' : CreatedAnalogValues) (calls : List StackCall) : Prop :=
  Noted (fun n (t : CreatedAnalogValues) => t.valueOf n)
    (fun n => .updateValue objectTypeAnalogValue n propertyIdentifierPresentValue) t t' calls

/-- A deletion needs no report. -/
theorem Distinct.reports_sweep (hd : t.Distinct) (restored : RestoredAnalogValues)
    (calls : List StackCall) : Reports t (SlotTable.sweep (removeVisit restored) t).1 calls := by
  intro n hne hsome
  have hswept : valueOf (SlotTable.sweep (removeVisit restored) t).1 n = _ :=
    congrFun hd.represents.sweep.valueOf_eq n
  rw [keepInstances] at hswept
  split at hswept
  · exact absurd hswept hne
  · exact absurd hswept hsome

/-- A write to one instance, reported. -/
theorem reports_of_update {t' : CreatedAnalogValues} {n : ℕ} {v : binary32.Value}
    {calls : List StackCall} (h : t'.Represents (Function.update t.valueOf n (some v)))
    (hmem : .updateValue objectTypeAnalogValue n propertyIdentifierPresentValue ∈ calls) :
    Reports t t' calls := by
  intro k hne _
  by_cases hk : k = n
  · exact hk ▸ hmem
  · exact absurd ((congrFun h.valueOf_eq k).trans (Function.update_of_ne hk _ _)) hne

/-- **One restored value is put back and reported.** -/
theorem Distinct.reports_restoreStep (addObject : ℕ → Bool)
    (x : CreatedAnalogValues × List StackCall) (r : RestoredAnalogValue × ℕ)
    (hd : x.1.Distinct) : (restoreStep addObject x r).1.Distinct
      ∧ ∃ new, (restoreStep addObject x r).2 = x.2 ++ new
        ∧ Reports x.1 (restoreStep addObject x r).1 new := by
  rw [restoreStep]
  cases hf : x.1.findCreated r.1.objectInstance with
  | some slot =>
    have h' := hd.represents.overwrite (v := r.1.presentValue) hf
    exact ⟨h'.distinct, _, rfl, reports_of_update h' List.mem_cons_self⟩
  | none =>
    cases hfree : x.1.findFree with
    | none => exact ⟨hd, [], (List.append_nil _).symm, noted_of_view_eq fun _ => rfl⟩
    | some slot =>
      have h' := hd.represents.add (v := r.1.presentValue) hf hfree
      by_cases hadd : addObject r.2 = true
      · simp only [hadd, if_true]
        exact ⟨h'.distinct, _, rfl,
          reports_of_update h' (List.mem_cons_of_mem _ List.mem_cons_self)⟩
      · simp only [hadd, Bool.false_eq_true, if_false]
        exact ⟨hd, _, rfl, noted_of_view_eq fun _ => rfl⟩

/-- **`ApplyRestoredConfiguration` reports every Analog Value it changes.** -/
theorem Distinct.reports_apply (hd : t.Distinct) (addObject : ℕ → Bool)
    (restored : RestoredAnalogValues) :
    Reports t (applyRestoredConfiguration addObject restored t).1
      (applyRestoredConfiguration addObject restored t).2 :=
  noted_foldl (P := fun t : CreatedAnalogValues => t.Distinct)
    (Distinct.reports_restoreStep addObject) _ hd.represents.sweep.distinct
    (hd.reports_sweep restored _)

end CreatedAnalogValues

/-! ## The other blocks -/

theorem reported_restoreBlock (hd : s.createdAnalogValues.Distinct) (addObject : ℕ → Bool) :
    Reported cfg s (restoreBlock addObject s).1 (restoreBlock addObject s).2 := by
  rw [restoreBlock]
  split
  · exact { reported_refl s _ with
      analogValues := hd.reports_apply addObject s.restoredAnalogValues }
  · exact reported_refl s []

theorem reported_passengerAlarmBlock (now : ℤ) (s : State) :
    Reported cfg s (passengerAlarmBlock cfg now s).1 (passengerAlarmBlock cfg now s).2 := by
  rw [passengerAlarmBlock]
  split
  · exact { reported_refl s _ with passengerAlarm := Or.inr List.mem_cons_self }
  · exact reported_refl s []

theorem reported_keyBlock (key : KeyCommand) (s : State) :
    Reported cfg s (keyBlock key s).1 (keyBlock key s).2 := by
  have hnudge : ∀ step, Reported cfg s (nudge step s).1 (nudge step s).2 := fun step =>
    { reported_refl s _ with analogInput1 := Or.inr List.mem_cons_self }
  cases key with
  | arrowUp => exact hnudge _
  | arrowDown => exact hnudge _
  | _ => exact reported_refl s []

/-- A restart that is not due, and a WARMSTART, change no watched value. -/
theorem reported_restartBlock {nowMs : ℕ} (h : ¬ Action.IsDueColdstart s (.restart nowMs)) :
    Reported cfg s (restartBlock nowMs s).1 (restartBlock nowMs s).2 := by
  rw [restartBlock.eq_def, Restart.due]
  split_ifs with hdue
  · exact { reported_refl s _ with }
  · cases hkind : s.restart.kind with
    | warm => exact { reported_refl s _ with }
    | cold =>
      obtain ⟨hpending, hdeadline⟩ := not_or.mp hdue
      exact absurd ⟨not_not.mp hpending, not_lt.mp hdeadline, hkind⟩ h

/-! ## COLDSTART -/

/-- The outputs' Present_Values after a COLDSTART: their Relinquish_Defaults. -/
theorem presentValues_coldstart (cfg : Config) (s : State) :
    analogOutputPresentValue cfg s.coldstart = some (binary32.round 20)
      ∧ binaryOutputPresentValue cfg s.coldstart = some 0
      ∧ multiStateOutputPresentValue cfg s.coldstart = some 1 :=
  s.holds_coldstart.presentValues cfg

/-- **A COLDSTART that reports nothing** changes nothing exactly when every watched value it resets
has its power-on value. -/
theorem noted_coldstart_iff {calls : List StackCall}
    (hvalues : s'.createdAnalogValues = s.createdAnalogValues)
    (hsilent : ∀ w : Watched, w.updateValue cfg ∉ calls) :
    Noted (Watched.served cfg) (Watched.updateValue cfg) s s'.coldstart calls
      ↔ s.WatchedAtPowerOn cfg := by
  obtain ⟨hanalog, hbinary, hmultiState⟩ := presentValues_coldstart cfg s'
  have hreal : Function.Injective Datum.real := fun _ _ => Datum.real.inj
  have henum : Function.Injective Datum.enumerated := fun _ _ => Datum.enumerated.inj
  have huint : Function.Injective Datum.unsigned := fun _ _ => Datum.unsigned.inj
  have hbool : Function.Injective Datum.boolean := fun _ _ => Datum.boolean.inj
  constructor
  · intro h
    have hw : ∀ (w : Watched) (d : Datum), w.served cfg s'.coldstart = some d →
        w.served cfg s = some d := fun w d hd =>
      (h.eq_of_notMem (hsilent w) (by rw [hd]; exact nofun)).symm.trans hd
    have hpos := hw .carPosition (.unsigned liftStartFloor) (served_carPosition _)
    have hdir := hw .carMovingDirection (.enumerated liftCarDirectionStopped)
      (served_carMovingDirection _)
    have hdoor := hw .carDoorStatus (.enumerated doorStatusClosed) (served_carDoorStatus _)
    have halarm := hw .passengerAlarm (.boolean false) (served_passengerAlarm _)
    have hinput := hw .analogInput1 (.real analogInput1AtPowerOn) (served_analogInput1 _)
    rw [served_carPosition] at hpos
    rw [served_carMovingDirection] at hdir
    rw [served_carDoorStatus] at hdoor
    rw [served_passengerAlarm] at halarm
    rw [served_analogInput1] at hinput
    exact
      { position := huint (Option.some.inj hpos)
        movingDirection := henum (Option.some.inj hdir)
        doorStatus := henum (Option.some.inj hdoor)
        passengerAlarm := hbool (Option.some.inj halarm)
        analogInput1 := hreal (Option.some.inj hinput)
        analogOutput := Option.map_injective hreal
          (hw (.output .analog) _ (congrArg (Option.map Datum.real) hanalog))
        binaryOutput := Option.map_injective henum
          (hw (.output .binary) _ (congrArg (Option.map Datum.enumerated) hbinary))
        multiStateOutput := Option.map_injective huint
          (hw (.output .multiState) _ (congrArg (Option.map Datum.unsigned) hmultiState)) }
  · intro h
    refine noted_of_view_eq fun w => ?_
    cases w with
    | carPosition => rw [served_carPosition, served_carPosition, h.position]; rfl
    | carMovingDirection =>
      rw [served_carMovingDirection, served_carMovingDirection, h.movingDirection]; rfl
    | carDoorStatus => rw [served_carDoorStatus, served_carDoorStatus, h.doorStatus]; rfl
    | passengerAlarm => rw [served_passengerAlarm, served_passengerAlarm, h.passengerAlarm]; rfl
    | analogInput1 => rw [served_analogInput1, served_analogInput1, h.analogInput1]; rfl
    | output o =>
      cases o with
      | analog => exact congrArg (Option.map Datum.real) (hanalog.trans h.analogOutput.symm)
      | binary => exact congrArg (Option.map Datum.enumerated) (hbinary.trans h.binaryOutput.symm)
      | multiState =>
        exact congrArg (Option.map Datum.unsigned) (hmultiState.trans h.multiStateOutput.symm)
    | analogValue n => rw [served_analogValue, served_analogValue, ← hvalues]; rfl

/-- The restart block when a COLDSTART is due. -/
theorem restartBlock_of_isDueColdstart {nowMs : ℕ} (h : Action.IsDueColdstart s (.restart nowMs)) :
    restartBlock nowMs s
      = (State.coldstart { s with restart := (s.restart.due nowMs).2 }, [.sendIAm]) := by
  obtain ⟨hpending, hdeadline, hkind⟩ := h
  have hdue : (s.restart.due nowMs).1 = some .cold := by
    rw [Restart.due, if_neg (not_or.mpr ⟨not_not.mpr hpending, not_lt.mpr hdeadline⟩), hkind]
  rw [restartBlock.eq_def]
  simp only [hdue]

/-! ## Every action of the main loop -/

/-- **No served value changes silently, but by a COLDSTART.**  In every reachable state, an action
of the main loop calls `BACnetStack_UpdateValue` for every watched value it changes, exactly when it
is not a COLDSTART that is due or every value the COLDSTART resets has its power-on value
already. -/
theorem noSilentChange_iff (h : Reachable cfg s) (a : Action) :
    NoSilentChange cfg s a ↔ (a.IsDueColdstart s → s.WatchedAtPowerOn cfg) := by
  by_cases hcold : a.IsDueColdstart s
  · rw [NoSilentChange, imp_iff_right hcold]
    cases a with
    | restart nowMs =>
      rw [Action.perform, restartBlock_of_isDueColdstart hcold]
      exact noted_coldstart_iff rfl fun w => by simp [Watched.updateValue]
    | _ => exact absurd hcold id
  · refine iff_of_true ?_ fun hdue => absurd hdue hcold
    cases a with
    | restore addObject => exact (reported_restoreBlock h.distinct addObject).noted
    | liftCarTick now => exact (reported_liftCarTick now s).noted
    | passengerAlarm now => exact (reported_passengerAlarmBlock now s).noted
    | restart nowMs => exact (reported_restartBlock hcold).noted
    | key command => exact (reported_keyBlock command s).noted

/-- Power-on, then ReinitializeDevice COLDSTART at time 0. -/
def coldstartAtOnce : State :=
  Event.step (.standard .utc) (.powerOn (.standard .utc) 0)
    (.request (.reinitializeDevice 0 389014 reinitializeStateColdstart none))

/-- A COLDSTART that has nothing to reset is not silent. -/
theorem noSilentChange_iff_coldstart_at_once :
    Action.IsDueColdstart coldstartAtOnce (.restart 1000)
      ∧ NoSilentChange (.standard .utc) coldstartAtOnce (.restart 1000) := by
  have hreach : Reachable (.standard .utc) coldstartAtOnce :=
    Reachable.step ⟨0, [], rfl⟩ (.request (.reinitializeDevice 0 389014 _ none))
  have hholds : coldstartAtOnce.Holds .none :=
    (State.holds_powerOn (.standard .utc) 0).of_outputs_eq rfl
  obtain ⟨hanalog, hbinary, hmultiState⟩ := hholds.presentValues (.standard .utc)
  have hvalues : coldstartAtOnce.WatchedAtPowerOn (.standard .utc) :=
    ⟨rfl, rfl, rfl, rfl, rfl, hanalog, hbinary, hmultiState⟩
  exact ⟨⟨rfl, le_rfl, rfl⟩, (noSilentChange_iff hreach _).mpr fun _ => hvalues⟩

/-- Power-on, the simulated Passenger_Alarm flipped, then ReinitializeDevice COLDSTART. -/
def alarmThenColdstart : State :=
  Runs.run (Event.step (.standard .utc))
    [.action (.passengerAlarm 30),
      .request (.reinitializeDevice 30000 389014 reinitializeStateColdstart none)]
    (.powerOn (.standard .utc) 0)

/-- **The COLDSTART clears the alarm and tells no one.** -/
theorem not_noSilentChange_coldstart : Reachable (.standard .utc) alarmThenColdstart
    ∧ ¬ NoSilentChange (.standard .utc) alarmThenColdstart (.restart 31000) := by
  refine ⟨⟨0, _, rfl⟩, fun h => ?_⟩
  have hmem := h .passengerAlarm (by rw [served_passengerAlarm, served_passengerAlarm]; decide)
    (by rw [served_passengerAlarm]; exact nofun)
  exact absurd hmem (by decide)

end Controller
