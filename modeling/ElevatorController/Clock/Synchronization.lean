import ElevatorController.Clock.Utc
import ElevatorController.Model.MainLoop

/-!
# Clock/Synchronization — what TimeSynchronization sets the clock to

    2026-02-28 23:59:59  ─ mktime ─▸ the moment named          accepted
    2026-02-30 00:00:00  ─ mktime ─▸ 2026-03-02 00:00:00       accepted all the same
    a field of 255                                             refused

`SetSystemTime` leaves it to `mktime` to tell whether the fields name a moment, and refuses what
`mktime` answers with −1.  But `mktime` carries a field out of its range over into the next instead
of failing, so the only moment that is refused is the one −1 stands for: the last second of 1969.
-/

namespace Controller

open Calendar

namespace TimeSynchronization

/-! ## What a request names -/

/-- The request names a date of the calendar and a time of day. -/
structure Real (r : TimeSynchronization) : Prop where
  month : 1 ≤ r.month ∧ r.month ≤ 12
  day : 1 ≤ r.day ∧ r.day ≤ monthLength (1900 + r.year) r.month
  hour : r.hour ≤ 23
  minute : r.minute ≤ 59
  second : r.second ≤ 59

/-- The request names the moment. -/
structure Names (r : TimeSynchronization) (m : Moment) : Prop where
  year : m.year = 1900 + r.year
  month : m.month = r.month
  day : m.day = r.day
  hour : m.hour = r.hour
  minute : m.minute = r.minute
  second : m.second = r.second

/-- A field of the request is the wildcard. -/
def Unspecified (r : TimeSynchronization) : Prop :=
  r.year = 255 ∨ r.month = 255 ∨ r.day = 255 ∨ r.hour = 255 ∨ r.minute = 255 ∨ r.second = 255

instance (r : TimeSynchronization) : Decidable r.Unspecified := inferInstanceAs (Decidable (_ ∨ _))

/-- The seconds the time of day names, each field whatever it is. -/
def secondOfDay (r : TimeSynchronization) : ℕ := r.hour * 3600 + r.minute * 60 + r.second

/-- The fields carry over to the last second of 1969: from the days of a month 0 of 1970, which is
December 1969, or from day 0 of January 1970. -/
def CarriesBeforeEpoch (r : TimeSynchronization) : Prop :=
  r.year = 70 ∧ ((r.month = 0 ∧ r.day * 86400 + r.secondOfDay + 1 = 32 * 86400)
    ∨ (r.month = 1 ∧ r.day = 0 ∧ r.secondOfDay + 1 = 86400))

/-! ## What `mktime` makes of it -/

variable {r : TimeSynchronization}

theorem mktime_requestedTm (r : TimeSynchronization) :
    Host.utc.mktime r.requestedTm
      = (daysFromCivil (r.year + 1900 + ((r.month : ℤ) - 1) / 12) (((r.month : ℤ) - 1) % 12 + 1) 1
        + r.day - 1) * 86400 + r.secondOfDay := by
  simp only [Host.utc, requestedTm, secondOfDay]
  push_cast
  ring

/-- The first of a month from 1970 on, and of any but the first month of all. -/
theorem daysFromCivil_first (year month : ℤ) (hyear : 1970 ≤ year)
    (hmonth : 1 ≤ month ∧ month ≤ 12) :
    0 ≤ daysFromCivil year month 1
      ∧ (¬ (year = 1970 ∧ month = 1) → 31 ≤ daysFromCivil year month 1) := by
  obtain ⟨hlow, hhigh⟩ := hmonth
  rw [daysFromCivil]
  interval_cases month <;> norm_num <;> omega

theorem daysFromCivil_day (year month day : ℤ) :
    daysFromCivil year month day = daysFromCivil year month 1 + day - 1 := by
  rw [daysFromCivil, daysFromCivil]
  ring

/-- **A real request is the moment it names**, and that is on the clock. -/
theorem Real.exists_clock (hr : r.Real) (hyear : 70 ≤ r.year) :
    ∃ k : ℕ, r.Names (clock k) ∧ Host.utc.mktime r.requestedTm = k := by
  obtain ⟨hmonth, hday, hhour, hminute, hsecond⟩ := hr
  have hsec : r.secondOfDay < 86400 := by
    rw [secondOfDay]
    omega
  have hcarry : ((r.month : ℤ) - 1) / 12 = 0 ∧ ((r.month : ℤ) - 1) % 12 + 1 = r.month := by omega
  have hfirst := (daysFromCivil_first (r.year + 1900) r.month (by omega) (by omega)).1
  have htime := mktime_requestedTm r
  rw [hcarry.1, hcarry.2, add_zero, ← daysFromCivil_day] at htime
  have hdays := daysFromCivil_day (r.year + 1900) r.month r.day
  generalize Host.utc.mktime r.requestedTm = t at *
  obtain ⟨weekday, hweekday, hwday⟩ : ∃ w : ℕ, (1 ≤ w ∧ w ≤ 7) ∧ (t / 86400 + 4) % 7 = w % 7 :=
    ⟨((t / 86400 + 3) % 7).toNat + 1, by omega, by omega⟩
  have htells : Tells ⟨⟨1900 + r.year, r.month, r.day, weekday⟩, r.hour, r.minute, r.second⟩ t := by
    refine ⟨⟨⟨hmonth, hday, hweekday⟩, hhour, hminute, hsecond⟩, ?_, ?_, hwday⟩
    · push_cast
      rw [add_comm (1900 : ℤ)]
      omega
    · change t % 86400 = r.secondOfDay
      omega
  refine ⟨t.toNat, ?_, by omega⟩
  have hclock := tells_clock t.toNat
  rw [Int.toNat_of_nonneg (by omega)] at hclock
  rw [← htells.unique hclock]
  exact ⟨rfl, rfl, rfl, rfl, rfl, rfl⟩

/-- **`mktime` answers −1 for one second only.** -/
theorem mktime_eq_neg_one_iff (hyear : 70 ≤ r.year) :
    Host.utc.mktime r.requestedTm = -1 ↔ r.CarriesBeforeEpoch := by
  rw [mktime_requestedTm, CarriesBeforeEpoch]
  obtain hmonth | hmonth := Nat.eq_zero_or_pos r.month
  · have hcarry : ((r.month : ℤ) - 1) / 12 = -1 ∧ ((r.month : ℤ) - 1) % 12 + 1 = 12 := by omega
    rw [hcarry.1, hcarry.2]
    by_cases hfirst : r.year = 70
    · have hdays : daysFromCivil ((70 : ℕ) + 1900 + -1) 12 1 = -31 := by decide
      rw [hfirst, hdays]
      omega
    · have hdays :=
        (daysFromCivil_first (r.year + 1900 + -1) 12 (by omega) (by decide)).2 (by omega)
      omega
  · have hmonth' : 1 ≤ ((r.month : ℤ) - 1) % 12 + 1 ∧ ((r.month : ℤ) - 1) % 12 + 1 ≤ 12 := by omega
    have hyear' : 1970 ≤ (r.year : ℤ) + 1900 + ((r.month : ℤ) - 1) / 12 := by omega
    have hdays := (daysFromCivil_first _ _ hyear' hmonth').2
    by_cases hfirst : r.year = 70 ∧ r.month = 1
    · have hepoch : daysFromCivil ((70 : ℕ) + 1900 + ((1 : ℕ) - 1) / 12) (((1 : ℕ) - 1) % 12 + 1) 1
          = 0 := by decide
      rw [hfirst.1, hfirst.2, hepoch]
      omega
    · have := hdays (by omega)
      omega

end TimeSynchronization

/-! ## Reading the clock -/

/-- Local_Date and Local_Time read the moment, at a wall-clock time. -/
structure State.Reads (cfg : Config) (now : ℤ) (s : State) (m : Moment) : Prop where
  date : ∀ index, getPropertyDate cfg now s ⟨cfg.deviceInstance, objectTypeDevice,
    cfg.deviceInstance, propertyIdentifierLocalDate, index⟩
      = some ⟨m.year - 1900, m.month, m.day, m.weekday⟩
  time : ∀ index, getPropertyTime cfg now s ⟨cfg.deviceInstance, objectTypeDevice,
    cfg.deviceInstance, propertyIdentifierLocalTime, index⟩
      = some ⟨m.hour, m.minute, m.second, 0⟩

theorem castUInt8_natCast {n : ℕ} (h : n < 256) : castUInt8 n = n := by
  rw [castUInt8]
  omega

/-- **The stamp of a moment before 2155**: no field is cut by its octet. -/
theorem readDeviceDateTime_tells {m : Moment} {now offset : ℤ} (h : Tells m (now + offset))
    (hyear : 1900 ≤ m.year ∧ m.year < 2155) (stamp : SyncedDateTime) :
    readDeviceDateTime Host.utc now offset stamp
      = ⟨true, m.year - 1900, m.month, m.day, m.weekday, m.hour, m.minute, m.second, 0⟩ := by
  obtain ⟨⟨hmonth, hday, hweekday⟩, hhour, hminute, hsecond⟩ := h.valid
  have hlength := monthLength_le m.year m.month
  have hwday : (if (m.weekday : ℤ) % 7 = 0 then 7 else (m.weekday : ℤ) % 7) = m.weekday := by
    split <;> omega
  have hyears : (m.year : ℤ) - 1900 = (m.year - 1900 : ℕ) := by omega
  have hmonths : (m.month : ℤ) - 1 + 1 = m.month := by ring
  rw [readDeviceDateTime, getDeviceLocalTm, h.localtime]
  simp only [Tm.ofMoment, hwday, hyears, hmonths]
  rw [castUInt8_natCast (by omega), castUInt8_natCast (by omega), castUInt8_natCast (by omega),
    castUInt8_natCast (by omega), castUInt8_natCast (by omega), castUInt8_natCast (by omega),
    castUInt8_natCast (by omega)]

/-- A device whose clock tells the moment reads it. -/
theorem State.reads_of_tells {cfg : Config} (hhost : cfg.host = Host.utc) {now : ℤ} {s : State}
    {m : Moment} (h : Tells m (now + s.clockOffsetSeconds))
    (hyear : 1900 ≤ m.year ∧ m.year < 2155) : s.Reads cfg now m := by
  have hstamp := readDeviceDateTime_tells h hyear {}
  rw [← hhost] at hstamp
  constructor
  · intro index
    rw [getPropertyDate, if_neg (by simp [objectTypeDevice, objectTypeFile]), if_neg (by simp),
      hstamp]
    rfl
  · intro index
    rw [getPropertyTime, if_neg (by simp [objectTypeDevice, objectTypeFile]), if_neg (by simp),
      hstamp]
    rfl

/-! ## Setting the clock -/

/-- The offset is refused for a wildcard, and for what `mktime` answers with −1. -/
theorem clockOffset_eq (host : Host) (now : ℤ) (r : TimeSynchronization) :
    r.clockOffset host now
      = if r.Unspecified ∨ host.mktime r.requestedTm = -1 then none
        else some (host.mktime r.requestedTm - now) := by
  rw [TimeSynchronization.clockOffset]
  by_cases hunspecified : r.Unspecified
  · rw [if_pos (Or.inl hunspecified)]
    exact if_pos hunspecified
  refine (if_neg hunspecified).trans ?_
  by_cases hmktime : host.mktime r.requestedTm = -1
  · rw [if_pos (Or.inr hmktime)]
    exact if_pos hmktime
  · rw [if_neg (not_or.mpr ⟨hunspecified, hmktime⟩)]
    exact if_neg hmktime

/-- A request for the device is accepted unless a field is the wildcard or `mktime` answers −1. -/
theorem setSystemTime_eq {cfg : Config} {r : TimeSynchronization}
    (hdevice : r.deviceInstance = cfg.deviceInstance) (now : ℤ) (s : State) :
    setSystemTime cfg now r s
      = if r.Unspecified ∨ cfg.host.mktime r.requestedTm = -1 then (.decline, s)
        else (.accept, { s with clockOffsetSeconds := cfg.host.mktime r.requestedTm - now }) := by
  rw [setSystemTime.eq_def, if_neg (not_not.mpr hdevice), clockOffset_eq]
  by_cases hrefused : r.Unspecified ∨ cfg.host.mktime r.requestedTm = -1
  · rw [if_pos hrefused, if_pos hrefused]
  · rw [if_neg hrefused, if_neg hrefused]

/-- A request sets the clock to the moment it names, or not at all: named, it is read from then on;
not named, it is refused. -/
def SetsTheClock (cfg : Config) (now : ℤ) (s : State) (r : TimeSynchronization) : Prop :=
  let answer := setSystemTime cfg now r s
  (r.Real → answer.1.accepted = true ∧ ∃ k, r.Names (clock k)
      ∧ ∀ n : ℕ, (Moment.tick^[n] (clock k)).year < 2155 →
        answer.2.Reads cfg (now + n) (Moment.tick^[n] (clock k)))
    ∧ (¬ r.Real → answer.1.accepted = false ∧ answer.2.clockOffsetSeconds = s.clockOffsetSeconds)

/-- A real request before 2155 has no wildcard. -/
theorem TimeSynchronization.Real.specified {r : TimeSynchronization} (h : r.Real)
    (hyear : r.year ≤ 254) : ¬ r.Unspecified := by
  obtain ⟨hmonth, hday, hhour, hminute, hsecond⟩ := h
  have hlength := monthLength_le (1900 + r.year) r.month
  rw [Unspecified]
  omega

/-- **TimeSynchronization sets the clock to the moment named or not at all, exactly if the request
names one, has a wildcard, or carries over to the last second of 1969.**  Any other request that
names no moment — a February 30, a month 13, an hour 24 — is accepted, and sets the clock to the
moment its fields carry over to. -/
theorem setsTheClock_iff {cfg : Config} (hhost : cfg.host = Host.utc) {r : TimeSynchronization}
    (hdevice : r.deviceInstance = cfg.deviceInstance) (hyear : 70 ≤ r.year ∧ r.year ≤ 254)
    (now : ℤ) (s : State) :
    SetsTheClock cfg now s r ↔ r.Real ∨ r.Unspecified ∨ r.CarriesBeforeEpoch := by
  rw [← TimeSynchronization.mktime_eq_neg_one_iff hyear.1, SetsTheClock, setSystemTime_eq hdevice,
    hhost]
  by_cases hreal : r.Real
  · refine iff_of_true ⟨fun _ => ?_, fun h => absurd hreal h⟩ (Or.inl hreal)
    obtain ⟨k, hnames, hmktime⟩ := hreal.exists_clock hyear.1
    have hanswered : ¬ Host.utc.mktime r.requestedTm = -1 := by omega
    rw [if_neg (not_or.mpr ⟨hreal.specified hyear.2, hanswered⟩)]
    refine ⟨rfl, k, hnames, fun n hbefore => State.reads_of_tells hhost ?_ ⟨?_, hbefore⟩⟩
    · have htells := (tells_clock k).iterate n
      convert htells using 1
      simp only [hmktime]
      ring
    · rw [← clock_add]
      exact le_trans (by decide) (year_clock (k + n))
  · rw [or_iff_right hreal]
    refine ⟨fun h => ?_, fun h => ⟨fun hr => absurd hr hreal, fun _ => ?_⟩⟩
    · by_contra hneither
      have hrefused := (h.2 hreal).1
      rw [if_neg hneither] at hrefused
      exact absurd hrefused (by simp)
    · rw [if_pos h]
      exact ⟨rfl, rfl⟩

/-- Ten seconds before the leap day of 2028. -/
theorem setsTheClock_iff_leap :
    SetsTheClock (.standard .utc) 0 (.powerOn (.standard .utc) 0)
      ⟨389014, 128, 2, 28, 23, 59, 50⟩ :=
  (setsTheClock_iff rfl rfl ⟨by decide, by decide⟩ _ _).mpr
    (Or.inl ⟨by decide, by decide, by decide, by decide, by decide⟩)

/-- February 30, 2026 is accepted, and the clock reads March 2. -/
theorem not_setsTheClock_february :
    ¬ SetsTheClock (.standard .utc) 0 (.powerOn (.standard .utc) 0)
      ⟨389014, 126, 2, 30, 0, 0, 0⟩ := by
  intro h
  have hrefused := (h.2 fun hreal => absurd hreal.day (by decide)).1
  exact absurd hrefused (by decide)

end Controller
