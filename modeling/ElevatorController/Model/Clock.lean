import Mathlib

/-!
# Model/Clock — the device clock

    host wall clock + offset  ──localtime──▸  year month day weekday hour minute second

The device clock is the host's wall clock plus the offset the last TimeSynchronization set.  The
conversions between a `time_t` and a broken-down local time depend on the zone of the host, which is
a parameter (`Host`); `Host.utc` is one.
-/

namespace Controller

/-- `struct tm`. -/
structure Tm where
  year : ℤ
  mon : ℤ
  mday : ℤ
  hour : ℤ
  min : ℤ
  sec : ℤ
  wday : ℤ
  deriving DecidableEq

/-- The C library's conversions in the zone of the host. -/
structure Host where
  /-- `localtime_r`, and `none` where it fails. -/
  localtime : ℤ → Option Tm
  /-- `mktime`, which answers `-1` where it fails. -/
  mktime : Tm → ℤ

/-! ## The zone UTC

Days are counted from 1970-01-01 on the proleptic Gregorian calendar, in years that begin in March
so that the leap day comes last. -/

/-- The day number of a date. -/
def daysFromCivil (year month day : ℤ) : ℤ :=
  let y := if month ≤ 2 then year - 1 else year
  let era := y / 400
  let yearOfEra := y % 400
  let dayOfYear := (153 * ((month + 9) % 12) + 2) / 5 + day - 1
  era * 146097 + yearOfEra * 365 + yearOfEra / 4 - yearOfEra / 100 + dayOfYear - 719468

/-- The year, month and day of a day number. -/
def civilFromDays (days : ℤ) : ℤ × ℤ × ℤ :=
  let era := (days + 719468) / 146097
  let dayOfEra := (days + 719468) % 146097
  let yearOfEra := (dayOfEra - dayOfEra / 1460 + dayOfEra / 36524 - dayOfEra / 146096) / 365
  let dayOfYear := dayOfEra - (365 * yearOfEra + yearOfEra / 4 - yearOfEra / 100)
  let shifted := (5 * dayOfYear + 2) / 153
  let month := if shifted < 10 then shifted + 3 else shifted - 9
  (yearOfEra + era * 400 + (if month ≤ 2 then 1 else 0), month,
    dayOfYear - (153 * shifted + 2) / 5 + 1)

example : civilFromDays 11016 = (2000, 2, 29) ∧ daysFromCivil 2000 2 29 = 11016 := by decide

/-- A host in the zone UTC; `mktime` normalises fields out of their range. -/
def Host.utc : Host where
  localtime := fun t =>
    let days := t / 86400
    let (year, month, day) := civilFromDays days
    some
      { year := year - 1900
        mon := month - 1
        mday := day
        hour := t % 86400 / 3600
        min := t % 3600 / 60
        sec := t % 60
        wday := (days + 4) % 7 }
  mktime := fun tm =>
    (daysFromCivil (tm.year + 1900 + tm.mon / 12) (tm.mon % 12 + 1) 1 + tm.mday - 1) * 86400
      + tm.hour * 3600 + tm.min * 60 + tm.sec

/-! ## The device clock -/

/-- A date and time in the protocol's fields; the defaults are those of the source. -/
structure SyncedDateTime where
  valid : Bool := false
  yearMinus1900 : ℕ := 0
  month : ℕ := 1
  day : ℕ := 1
  weekday : ℕ := 1
  hour : ℕ := 0
  minute : ℕ := 0
  second : ℕ := 0
  hundredthSecond : ℕ := 0
  deriving DecidableEq

/-- `(uint8_t)` of an `int`. -/
def castUInt8 (n : ℤ) : ℕ := (n % 256).toNat

/-- `GetDeviceLocalTm`, at a wall-clock time. -/
def getDeviceLocalTm (host : Host) (now clockOffsetSeconds : ℤ) : Option Tm :=
  host.localtime (now + clockOffsetSeconds)

/-- `ReadDeviceDateTime`: a clock that cannot be read leaves the stamp as it was. -/
def readDeviceDateTime (host : Host) (now clockOffsetSeconds : ℤ) (stamp : SyncedDateTime) :
    SyncedDateTime :=
  match getDeviceLocalTm host now clockOffsetSeconds with
  | none => stamp
  | some parts =>
    { valid := true
      yearMinus1900 := castUInt8 parts.year
      month := castUInt8 (parts.mon + 1)
      day := castUInt8 parts.mday
      weekday := castUInt8 (if parts.wday = 0 then 7 else parts.wday)
      hour := castUInt8 parts.hour
      minute := castUInt8 parts.min
      second := castUInt8 parts.sec
      hundredthSecond := 0 }

/-- The date and time a TimeSynchronization names. -/
structure TimeSynchronization where
  deviceInstance : ℕ
  year : ℕ
  month : ℕ
  day : ℕ
  hour : ℕ
  minute : ℕ
  second : ℕ
  deriving DecidableEq

/-- The `struct tm` handed to `mktime`. -/
def TimeSynchronization.requestedTm (r : TimeSynchronization) : Tm where
  year := r.year
  mon := r.month - 1
  mday := r.day
  hour := r.hour
  min := r.minute
  sec := r.second
  wday := 0

/-- The clock offset a TimeSynchronization sets; an unspecified field or a time the C library cannot
represent refuses it. -/
def TimeSynchronization.clockOffset (host : Host) (now : ℤ) (r : TimeSynchronization) : Option ℤ :=
  let unspecified := 255
  if r.year = unspecified ∨ r.month = unspecified ∨ r.day = unspecified ∨ r.hour = unspecified
      ∨ r.minute = unspecified ∨ r.second = unspecified then none
  else
    let requestedTime := host.mktime r.requestedTm
    if requestedTime = -1 then none else some (requestedTime - now)

end Controller
