import ElevatorController.Backup.Transfer

/-!
# File/ModificationDate — what Modification_Date says of the content

    write, resize, image of a backup      content changes, date := device clock
    PrepareRestore                        content := [],   date as it was

Every operation on the file but one stamps it.  Emptying it for a restore does not, so between
PrepareRestore and the first write of the client the date is that of a content that is gone.
-/

namespace Controller

/-! ## Steps with their time -/

/-- The wall-clock time a request reads, if it reads it. -/
def Request.wallTime : Request → Option ℤ
  | .setPropertyUnsignedInteger now _ _ _ => some now
  | .setSystemTime now _ => some now
  | .writeFile now _ _ _ _ => some now
  | .prepareBackup now _ => some now
  | _ => none

/-- The wall-clock time an event reads, if it reads it. -/
def Event.wallTime : Event → Option ℤ
  | .request r => r.wallTime
  | .action (.passengerAlarm now) => some now
  | .action _ => none

/-- An event and the wall-clock time at which it is taken. -/
structure TimedEvent where
  now : ℤ
  event : Event
  reads : ∀ t ∈ event.wallTime, t = now

def TimedEvent.step (cfg : Config) (s : State) (x : TimedEvent) : State := x.event.step cfg s

section Clock

variable (cfg : Config) (now : ℤ) (s : State)

/-- The device clock. -/
def deviceClock : SyncedDateTime := readDeviceDateTime cfg.host now s.clockOffsetSeconds {}

/-- The C library can represent the device clock. -/
def ClockReadable : Prop := (getDeviceLocalTm cfg.host now s.clockOffsetSeconds).isSome = true

variable {cfg now s}

/-- A clock that can be read stamps over whatever stamp there is. -/
theorem readDeviceDateTime_eq_deviceClock (h : ClockReadable cfg now s) (stamp : SyncedDateTime) :
    readDeviceDateTime cfg.host now s.clockOffsetSeconds stamp = deviceClock cfg now s := by
  obtain ⟨parts, hparts⟩ := Option.isSome_iff_exists.mp h
  rw [deviceClock, readDeviceDateTime, readDeviceDateTime, hparts]

end Clock

/-! ## What a step does to the file -/

/-- The request writes, resizes, builds or empties the file. -/
def Request.IsFileWrite : Request → Prop
  | .setPropertyUnsignedInteger _ p _ _ =>
    p.names objectTypeFile fileInstance propertyIdentifierFileSize
  | .writeFile _ _ _ _ _ => True
  | .prepareBackup _ _ => True
  | .prepareRestore _ => True
  | _ => False

/-- The step writes or resizes the file: such a request, accepted. -/
def Event.WritesFile (cfg : Config) (s : State) : Event → Prop
  | .request r => r.IsFileWrite
      ∧ ∃ reply s', r.perform cfg s = some (reply, s') ∧ reply.accepted = true
  | .action _ => False

/-- What a step does to content and date: nothing; a stamp with the device clock; or the content
emptied under the old date. -/
inductive FileStep (cfg : Config) (s : State) (x : TimedEvent) : Prop where
  | kept (hwrites : ¬ x.event.WritesFile cfg s)
      (hdata : (x.step cfg s).ivory.data = s.ivory.data)
      (hdate : (x.step cfg s).ivory.modificationDate = s.ivory.modificationDate)
  | stamped (hwrites : x.event.WritesFile cfg s)
      (hevent : x.event ≠ .request (.prepareRestore cfg.deviceInstance))
      (hdate : (x.step cfg s).ivory.modificationDate
        = readDeviceDateTime cfg.host x.now s.clockOffsetSeconds s.ivory.modificationDate)
  | emptied (hevent : x.event = .request (.prepareRestore cfg.deviceInstance))
      (hdata : (x.step cfg s).ivory.data.toList = [])
      (hdate : (x.step cfg s).ivory.modificationDate = s.ivory.modificationDate)

/-- A step that leaves the state where it was, or answers with a refusal, keeps the file. -/
theorem FileStep.of_refused {cfg : Config} {s : State} {x : TimedEvent} {r : Request}
    (hx : x.event = .request r)
    (hrefused : ∀ reply s', r.perform cfg s = some (reply, s') → reply.accepted = false)
    (hivory : (x.step cfg s).ivory = s.ivory) : FileStep cfg s x := by
  refine .kept ?_ (congrArg Ivory.data hivory) (congrArg Ivory.modificationDate hivory)
  rw [hx]
  rintro ⟨-, reply, s', hperform, haccepted⟩
  rw [hrefused reply s' hperform] at haccepted
  cases haccepted

/-- A request of another kind keeps the file. -/
theorem FileStep.of_not_isFileWrite {cfg : Config} {s : State} {x : TimedEvent} {r : Request}
    (hx : x.event = .request r) (hkind : ¬ r.IsFileWrite)
    (hdata : (x.step cfg s).ivory.data = s.ivory.data)
    (hdate : (x.step cfg s).ivory.modificationDate = s.ivory.modificationDate) :
    FileStep cfg s x := by
  refine .kept ?_ hdata hdate
  rw [hx]
  exact fun h => hkind h.1

section Requests

variable (cfg : Config) (s : State)

/-- What an accepted request leaves is what its event steps to. -/
theorem TimedEvent.step_request {x : TimedEvent} {r : Request} {reply : Reply} {s' : State}
    (hx : x.event = .request r) (hperform : r.perform cfg s = some (reply, s')) :
    x.step cfg s = s' := by
  rw [TimedEvent.step, hx, Event.step, hperform]
  rfl

/-- A refused request leaves the state. -/
theorem fileStep_refused {x : TimedEvent} {r : Request} {reply : Reply}
    (hx : x.event = .request r) (hperform : r.perform cfg s = some (reply, s))
    (hreply : reply.accepted = false) : FileStep cfg s x := by
  refine .of_refused hx (fun reply' s' h => ?_) ?_
  · obtain ⟨rfl, rfl⟩ := Prod.mk.inj (Option.some.inj (hperform.symm.trans h))
    exact hreply
  · rw [TimedEvent.step_request cfg s hx hperform]

/-- An accepted one that stamps. -/
theorem fileStep_stamped {x : TimedEvent} {r : Request} {s' : State}
    (hx : x.event = .request r) (hkind : r.IsFileWrite)
    (hrestore : r ≠ .prepareRestore cfg.deviceInstance)
    (hperform : r.perform cfg s = some (.accept, s'))
    (hdate : s'.ivory.modificationDate
      = readDeviceDateTime cfg.host x.now s.clockOffsetSeconds s.ivory.modificationDate) :
    FileStep cfg s x := by
  refine .stamped ?_ ?_ ?_
  · rw [hx]
    exact ⟨hkind, _, _, hperform, rfl⟩
  · rw [hx]
    exact fun h => hrestore (Event.request.inj h)
  · rw [TimedEvent.step_request cfg s hx hperform]
    exact hdate

theorem fileStep_writeFile {x : TimedEvent} {deviceInstance file : ℕ} {fileStart : ℤ}
    {fileData : List UInt8}
    (hx : x.event = .request (.writeFile x.now deviceInstance file fileStart fileData)) :
    FileStep cfg s x := by
  have hperform : (Request.writeFile x.now deviceInstance file fileStart fileData).perform cfg s
      = (writeFile cfg x.now deviceInstance file fileStart fileData s).map fun r => (r.1, r.2.2) :=
    rfl
  rw [writeFile.eq_def] at hperform
  split at hperform
  · exact fileStep_refused cfg s hx hperform rfl
  split at hperform
  · exact fileStep_refused cfg s hx hperform rfl
  · exact fileStep_stamped cfg s hx trivial (by rintro ⟨⟩) hperform rfl
  · -- the copy runs past the array, and no state follows
    refine .of_refused hx (fun reply s' h => ?_) ?_
    · rw [hperform] at h
      cases h
    · rw [TimedEvent.step, hx, Event.step, hperform]
      rfl

theorem fileStep_setPropertyUnsignedInteger {x : TimedEvent} {p : PropertyReference}
    {value priority : ℕ}
    (hx : x.event = .request (.setPropertyUnsignedInteger x.now p value priority)) :
    FileStep cfg s x := by
  have hperform : (Request.setPropertyUnsignedInteger x.now p value priority).perform cfg s
      = some (setPropertyUnsignedInteger cfg x.now p value priority s) := rfl
  rw [setPropertyUnsignedInteger] at hperform
  split_ifs at hperform with hdevice hmulti hrange hfile
  · exact fileStep_refused cfg s hx hperform rfl
  · exact fileStep_refused cfg s hx hperform rfl
  · have hstep := TimedEvent.step_request cfg s hx hperform
    refine .of_not_isFileWrite hx (fun h => ?_) ?_ ?_
    · exact absurd (hmulti.1.symm.trans h.1) (by decide)
    · rw [hstep]
      rfl
    · rw [hstep]
      rfl
  · rw [setIvoryFileSize.eq_def] at hperform
    split at hperform
    · exact fileStep_refused cfg s hx hperform rfl
    · exact fileStep_stamped cfg s hx hfile (by rintro ⟨⟩) hperform rfl
  · exact fileStep_refused cfg s hx hperform rfl

theorem fileStep_prepareBackup {x : TimedEvent} {deviceInstance : ℕ}
    (hx : x.event = .request (.prepareBackup x.now deviceInstance)) : FileStep cfg s x := by
  have hperform : (Request.prepareBackup x.now deviceInstance).perform cfg s
      = some (prepareBackup cfg x.now deviceInstance s) := rfl
  rw [prepareBackup] at hperform
  split at hperform
  · exact fileStep_refused cfg s hx hperform rfl
  · exact fileStep_stamped cfg s hx trivial (by rintro ⟨⟩) hperform rfl

theorem fileStep_prepareRestore {x : TimedEvent} {deviceInstance : ℕ}
    (hx : x.event = .request (.prepareRestore deviceInstance)) : FileStep cfg s x := by
  have hperform : (Request.prepareRestore deviceInstance).perform cfg s
      = some (prepareRestore cfg deviceInstance s) := rfl
  rw [prepareRestore] at hperform
  split at hperform
  · exact fileStep_refused cfg s hx hperform rfl
  · rename_i hdevice
    have hstep := TimedEvent.step_request cfg s hx hperform
    refine .emptied (by rw [hx, not_not.mp hdevice]) ?_ ?_
    · rw [hstep]
      rfl
    · rw [hstep]

/-- A file write names the file. -/
theorem Request.IsFileWrite.component_eq {r : Request} (h : r.IsFileWrite) :
    r.component = some .file := by
  cases r with
  | setPropertyUnsignedInteger now p value priority => exact if_pos h.1
  | writeFile | prepareBackup | prepareRestore => rfl
  | _ => exact h.elim

end Requests

/-- **Every step keeps the file, stamps it, or empties it unstamped.** -/
theorem TimedEvent.fileStep (cfg : Config) (s : State) (x : TimedEvent) : FileStep cfg s x := by
  have hreads := x.reads
  cases hx : x.event with
  | action a =>
    have hivory : (x.step cfg s).ivory = s.ivory := by
      rw [TimedEvent.step, hx]
      exact a.perform_ivory cfg s
    refine .kept ?_ (congrArg Ivory.data hivory) (congrArg Ivory.modificationDate hivory)
    rw [hx]
    exact id
  | request r =>
    rw [hx] at hreads
    by_cases hfile : r.component = some .file
    · cases r with
      | setPropertyUnsignedInteger now p value priority =>
        obtain rfl := hreads now rfl
        exact fileStep_setPropertyUnsignedInteger cfg s hx
      | writeFile now deviceInstance file fileStart fileData =>
        obtain rfl := hreads now rfl
        exact fileStep_writeFile cfg s hx
      | prepareBackup now deviceInstance =>
        obtain rfl := hreads now rfl
        exact fileStep_prepareBackup cfg s hx
      | prepareRestore deviceInstance => exact fileStep_prepareRestore cfg s hx
      | setPropertyBool p value =>
        -- Archive is the file's, and not its content
        have hstep : x.step cfg s = (setPropertyBool cfg p value s).2 := by
          rw [TimedEvent.step, hx]
          rfl
        rw [setPropertyBool] at hstep
        refine .of_not_isFileWrite hx id ?_ ?_ <;> rw [hstep] <;> split <;> rfl
      | setPropertyReal | reinitializeDevice =>
        rw [Request.component] at hfile
        split at hfile <;> cases hfile
      | setPropertyNull p priority =>
        rw [Request.component] at hfile
        cases hc : getCommandable p.objectType p.objectInstance <;> rw [hc] at hfile <;>
          cases hfile
      | _ => cases hfile
    · have hivory : (x.step cfg s).ivory = s.ivory := by
        rw [TimedEvent.step, hx]
        exact Event.ivory_step cfg s hfile
      exact .of_not_isFileWrite hx (fun h => hfile h.component_eq) (congrArg Ivory.data hivory)
        (congrArg Ivory.modificationDate hivory)

/-! ## The date and the content -/

/-- The step keeps the promise of Modification_Date: where the content changes it becomes the device
clock, and a step that does not write or resize the file leaves it. -/
structure Tracks (cfg : Config) (x : TimedEvent) (s : State) : Prop where
  changed : (x.step cfg s).ivory.data.toList ≠ s.ivory.data.toList →
    (x.step cfg s).ivory.modificationDate = deviceClock cfg x.now s
  kept : ¬ x.event.WritesFile cfg s →
    (x.step cfg s).ivory.modificationDate = s.ivory.modificationDate

/-- The step empties a file that has content, for a restore, under a date that is not the device
clock. -/
def EmptiesUnstamped (cfg : Config) (x : TimedEvent) (s : State) : Prop :=
  x.event = .request (.prepareRestore cfg.deviceInstance) ∧ s.ivory.data.toList ≠ []
    ∧ s.ivory.modificationDate ≠ deviceClock cfg x.now s

/-- **A step keeps the promise exactly when it does not empty the file unstamped.** -/
theorem tracks_iff {cfg : Config} {x : TimedEvent} {s : State}
    (hclock : ClockReadable cfg x.now s) :
    Tracks cfg x s ↔ ¬ EmptiesUnstamped cfg x s := by
  cases x.fileStep cfg s with
  | kept hwrites hdata hdate =>
    refine iff_of_true ⟨fun h => absurd (congrArg Buffer.toList hdata) h, fun _ => hdate⟩ ?_
    rintro ⟨hevent, -, -⟩
    rw [hevent] at hwrites
    exact hwrites ⟨trivial, _, _, congrArg some (if_neg (not_not.mpr rfl)), rfl⟩
  | stamped hwrites hevent hdate =>
    rw [readDeviceDateTime_eq_deviceClock hclock] at hdate
    exact iff_of_true ⟨fun _ => hdate, fun h => absurd hwrites h⟩ fun h => hevent h.1
  | emptied hevent hdata hdate =>
    constructor
    · rintro htracks ⟨-, hcontent, hstale⟩
      have hnow := htracks.changed (by rw [hdata]; exact hcontent.symm)
      exact hstale (hdate.symm.trans hnow)
    · intro hfine
      refine ⟨fun hchanged => ?_, fun _ => hdate⟩
      rw [hdata] at hchanged
      rw [hdate]
      by_contra hstale
      exact hfine ⟨hevent, hchanged.symm, hstale⟩

/-- The octets of the file after a run from power-on. -/
def contentAfter (cfg : Config) (start : ℤ) (xs : List TimedEvent) : List UInt8 :=
  (Runs.run (TimedEvent.step cfg) xs (.powerOn cfg start)).ivory.data.toList

/-- Modification_Date after a run from power-on. -/
def dateAfter (cfg : Config) (start : ℤ) (xs : List TimedEvent) : SyncedDateTime :=
  (Runs.run (TimedEvent.step cfg) xs (.powerOn cfg start)).ivory.modificationDate

/-- Modification_Date is the device clock at a step, or at power-on, since which the content has not
changed. -/
def DatesContent (cfg : Config) (start : ℤ) (xs : List TimedEvent) : Prop :=
  (dateAfter cfg start xs = deviceClock cfg start (.powerOn cfg start)
      ∧ ∀ ys, ys <+: xs → contentAfter cfg start ys = contentAfter cfg start xs)
    ∨ ∃ before x after, xs = before ++ x :: after
      ∧ dateAfter cfg start xs
        = deviceClock cfg x.now (Runs.run (TimedEvent.step cfg) before (.powerOn cfg start))
      ∧ ∀ ys, ys <+: after →
        contentAfter cfg start (before ++ x :: ys) = contentAfter cfg start xs

section Run

variable {cfg : Config} {start : ℤ}

theorem contentAfter_concat (xs : List TimedEvent) (x : TimedEvent) :
    contentAfter cfg start (xs ++ [x]) = (x.step cfg
      (Runs.run (TimedEvent.step cfg) xs (.powerOn cfg start))).ivory.data.toList := by
  rw [contentAfter, Runs.run_concat]

theorem dateAfter_concat (xs : List TimedEvent) (x : TimedEvent) :
    dateAfter cfg start (xs ++ [x]) = (x.step cfg
      (Runs.run (TimedEvent.step cfg) xs (.powerOn cfg start))).ivory.modificationDate := by
  rw [dateAfter, Runs.run_concat]

/-- A step that leaves content and date. -/
theorem DatesContent.concat_kept {xs : List TimedEvent} (h : DatesContent cfg start xs)
    {x : TimedEvent} (hcontent : contentAfter cfg start (xs ++ [x]) = contentAfter cfg start xs)
    (hdate : dateAfter cfg start (xs ++ [x]) = dateAfter cfg start xs) :
    DatesContent cfg start (xs ++ [x]) := by
  rcases h with ⟨hstart, hsame⟩ | ⟨before, y, after, rfl, hstep, hsame⟩
  · refine Or.inl ⟨hdate.trans hstart, fun ys hys => ?_⟩
    rcases List.prefix_concat_iff.mp hys with rfl | hys
    · rfl
    · exact (hsame ys hys).trans hcontent.symm
  · refine Or.inr ⟨before, y, after ++ [x], by simp, hdate.trans hstep, fun ys hys => ?_⟩
    rcases List.prefix_concat_iff.mp hys with rfl | hys
    · simp
    · exact (hsame ys hys).trans hcontent.symm

/-- A step that stamps. -/
theorem DatesContent.concat_stamped {xs : List TimedEvent} {x : TimedEvent}
    (hdate : dateAfter cfg start (xs ++ [x])
      = deviceClock cfg x.now (Runs.run (TimedEvent.step cfg) xs (.powerOn cfg start))) :
    DatesContent cfg start (xs ++ [x]) := by
  refine Or.inr ⟨xs, x, [], rfl, hdate, fun ys hys => ?_⟩
  rw [List.prefix_nil.mp hys]

/-- **A run that never empties the file unstamped keeps date and content together.** -/
theorem datesContent_of_steps (xs : List TimedEvent)
    (hfine : ∀ y ∈ Runs.steps (TimedEvent.step cfg) xs (.powerOn cfg start),
      ClockReadable cfg y.2.now y.1 ∧ ¬ EmptiesUnstamped cfg y.2 y.1) :
    DatesContent cfg start xs := by
  induction xs using List.reverseRecOn with
  | nil => exact Or.inl ⟨rfl, fun ys hys => by rw [List.prefix_nil.mp hys]⟩
  | append_singleton xs x ih =>
    rw [Runs.steps_append, List.forall_mem_append] at hfine
    have hprev := ih hfine.1
    obtain ⟨hclock, hstamped⟩ := hfine.2 (_, x) List.mem_cons_self
    by_cases hcontent : contentAfter cfg start (xs ++ [x]) = contentAfter cfg start xs
    · cases x.fileStep cfg (Runs.run (TimedEvent.step cfg) xs (.powerOn cfg start)) with
      | kept _ _ hdate => exact hprev.concat_kept hcontent ((dateAfter_concat xs x).trans hdate)
      | stamped _ _ hdate =>
        rw [readDeviceDateTime_eq_deviceClock hclock] at hdate
        exact .concat_stamped ((dateAfter_concat xs x).trans hdate)
      | emptied _ _ hdate => exact hprev.concat_kept hcontent ((dateAfter_concat xs x).trans hdate)
    · rw [contentAfter_concat] at hcontent
      have htracks := (tracks_iff hclock).mpr hstamped
      exact .concat_stamped ((dateAfter_concat xs x).trans (htracks.changed hcontent))

end Run

/-- **Modification_Date tracks the content of Ivory, but for a restore's emptying of it.**  At every
step of every run where the device clock can be read, a change of the content stamps it and a step
that does not write leaves it, exactly when the step does not empty a file that has content under
another date.  In every run without such a step, the date is the device clock at a step since which
the content has not changed. -/
theorem modification_date_tracks (cfg : Config) (start : ℤ) (xs : List TimedEvent) :
    let steps := Runs.steps (TimedEvent.step cfg) xs (.powerOn cfg start)
    (∀ y ∈ steps, ClockReadable cfg y.2.now y.1 →
      (Tracks cfg y.2 y.1 ↔ ¬ EmptiesUnstamped cfg y.2 y.1))
    ∧ ((∀ y ∈ steps, ClockReadable cfg y.2.now y.1 ∧ ¬ EmptiesUnstamped cfg y.2 y.1) →
      (∀ y ∈ steps, Tracks cfg y.2 y.1) ∧ DatesContent cfg start xs) := by
  intro steps
  refine ⟨fun y _ hclock => tracks_iff hclock, fun hfine => ⟨fun y hy => ?_, ?_⟩⟩
  · exact (tracks_iff (hfine y hy).1).mpr (hfine y hy).2
  · exact datesContent_of_steps xs hfine

/-- Two octets written at 0, and a restore begun a minute later: the content is gone, and the date
is still that of the write. -/
theorem prepareRestore_leaves_date :
    let cfg := Config.standard .utc
    let write : TimedEvent :=
      ⟨0, .request (.writeFile 0 389014 1 (-1) [72, 105]),
        by simp [Event.wallTime, Request.wallTime]⟩
    let restore : TimedEvent := ⟨60, .request (.prepareRestore 389014), nofun⟩
    let s := Runs.run (TimedEvent.step cfg) [write] (.powerOn cfg 0)
    ClockReadable cfg 60 s
      ∧ (restore.step cfg s).ivory.data.toList ≠ s.ivory.data.toList
      ∧ (restore.step cfg s).ivory.modificationDate ≠ deviceClock cfg 60 s
      ∧ ¬ Tracks cfg restore s := by
  intro cfg write restore s
  have hclock : ClockReadable cfg 60 s := rfl
  have hcontent : s.ivory.data.toList = [72, 105] := by decide
  have hstale : s.ivory.modificationDate ≠ deviceClock cfg 60 s := by decide
  refine ⟨hclock, ?_, hstale, fun htracks => ?_⟩
  · rw [hcontent]
    decide
  · refine (tracks_iff hclock).mp htracks ⟨rfl, ?_, hstale⟩
    rw [hcontent]
    decide

end Controller
