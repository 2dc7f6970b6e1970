import ElevatorController.Model.Clock
import ElevatorController.Machinery.Calendar

/-!
# Clock/Utc — the conversions of the zone UTC are the Gregorian calendar

    Moment.tick^[n]  :  m ──────────────▸ m'
                        │ seconds         ▲ localtime
                        ▼                 │
                        t ────── + n ────▸ t'

The conversions of `Host.utc` compute with day numbers, eras and years that begin in March.
`Tells m t` says that a moment of the calendar is the one a `time_t` stands for; a tick is one
second, and `localtime` reads the moment.
-/

namespace Controller

open Calendar

/-! ## Day numbers -/

/-- The days before a month, in a year that begins in March. -/
theorem daysBefore_month : ∀ month < 12, 1 ≤ month → month ≠ 2 →
    (153 * ((month + 1 + 9) % 12) + 2) / 5
      = (153 * ((month + 9) % 12) + 2) / 5
        + if month = 4 ∨ month = 6 ∨ month = 9 ∨ month = 11 then 30 else 31 := by
  decide

/-- The first of a month comes when the month before it is over. -/
theorem daysFromCivil_month (year : ℕ) {month : ℕ} (hmonth : 1 ≤ month ∧ month ≤ 11) (day : ℤ) :
    daysFromCivil year (month + 1) 1
      = daysFromCivil year month day + monthLength year month - day + 1 := by
  rw [daysFromCivil, daysFromCivil, monthLength]
  by_cases hfebruary : month = 2
  · rw [if_pos hfebruary, hfebruary]
    norm_num
    by_cases hleap : IsLeap year
    · rw [if_pos hleap]
      rw [IsLeap] at hleap
      omega
    · rw [if_neg hleap]
      rw [IsLeap] at hleap
      omega
  · have hbefore := daysBefore_month month (by omega) hmonth.1 hfebruary
    have hsame : (month : ℤ) + 1 ≤ 2 ↔ (month : ℤ) ≤ 2 := by omega
    rw [if_neg hfebruary]
    simp only [hsame]
    generalize (if (month : ℤ) ≤ 2 then (year : ℤ) - 1 else year) = y
    generalize (if month = 4 ∨ month = 6 ∨ month = 9 ∨ month = 11 then 30 else 31) = length at *
    zify at hbefore
    rw [hbefore]
    ring

/-- The first of January comes when December is over. -/
theorem daysFromCivil_year (year : ℕ) (day : ℤ) :
    daysFromCivil (year + 1) 1 1 = daysFromCivil year 12 day + 31 - day + 1 := by
  rw [daysFromCivil, daysFromCivil]
  norm_num
  omega

/-- **The next day has the next number.** -/
theorem daysFromCivil_next {d : Date} (h : d.Valid) :
    daysFromCivil d.next.year d.next.month d.next.day
      = daysFromCivil d.year d.month d.day + 1 := by
  rw [Date.next]
  split_ifs with hday hmonth
  · simp only [daysFromCivil]
    push_cast
    ring
  · have hlast : (d.day : ℤ) = monthLength d.year d.month := by
      have := h.day.2
      omega
    push_cast
    rw [daysFromCivil_month d.year ⟨h.month.1, by omega⟩ d.day, hlast]
    ring
  · have hdecember : d.month = 12 := by
      have := h.month.2
      omega
    have hlast : (d.day : ℤ) = 31 := by
      have hle := h.day.2
      rw [hdecember] at hle hday
      have hlength : monthLength d.year 12 = 31 := rfl
      omega
    push_cast
    rw [daysFromCivil_year d.year d.day, hdecember, hlast]
    push_cast
    ring

/-! ## Dates from day numbers

Within an era of 400 years that begin in March, day `n` (from 0) of the year `100 * c + 4 * q + r`
is day `36524 * c + 1461 * q + 365 * r + n`.  A year has a day 365 if it is the last of its four,
but not of its hundred unless of its four hundred. -/

/-- A day of an era. -/
structure DayOfEra (c q r n : ℤ) : Prop where
  century : 0 ≤ c ∧ c ≤ 3
  olympiad : 0 ≤ q ∧ q ≤ 24
  year : 0 ≤ r ∧ r ≤ 3
  dayOfYear : 0 ≤ n ∧ n ≤ 365
  leap : n = 365 → r = 3 ∧ (q = 24 → c = 3)

section

variable {c q r n day : ℤ} (h : DayOfEra c q r n)
  (hday : day = 36524 * c + 1461 * q + 365 * r + n)

include h hday

theorem centuries_eq : day / 36524 - day / 146096 = c := by
  obtain ⟨hc, hq, hr, hdoy, hleap⟩ := h
  by_cases hlast : q = 24 ∧ r = 3 ∧ n = 365
  · obtain ⟨rfl, rfl, rfl⟩ := hlast
    obtain rfl : c = 3 := (hleap rfl).2 rfl
    rw [hday]
    decide
  · have hlow : day / 36524 = c := by omega
    have hhigh : day / 146096 = 0 := by omega
    rw [hlow, hhigh, sub_zero]

theorem olympiads_eq : day / 1460
    = 25 * c + q + if 1460 ≤ 24 * c + q + 365 * r + n then 1 else 0 := by
  obtain ⟨hc, hq, hr, hdoy, -⟩ := h
  split <;> omega

/-- **The year of a day**: without its leap days an era is years of 365. -/
theorem years_eq :
    (day - day / 1460 + day / 36524 - day / 146096) / 365
      = 100 * c + 4 * q + r := by
  rw [add_sub_assoc, centuries_eq h hday, olympiads_eq h hday, hday]
  obtain ⟨hc, hq, hr, hdoy, hleap⟩ := h
  clear hday
  split <;> omega

theorem day_lt : 0 ≤ day ∧ day < 146097 := by
  obtain ⟨hc, hq, hr, hn, -⟩ := h
  omega

end

/-- The days of a year that begins in March. -/
theorem dayOfEra_year {y n : ℤ} (hn : 0 ≤ n ∧ n ≤ 365)
    (hleap : n = 365 → (y + 1) % 4 = 0 ∧ ((y + 1) % 100 = 0 → (y + 1) % 400 = 0)) :
    DayOfEra (y % 400 / 100) (y % 100 / 4) (y % 4) n := by
  refine ⟨by omega, by omega, by omega, hn, fun hlast => ?_⟩
  have hyear := hleap hlast
  clear hn hleap hlast
  omega

/-- **The era and the year of the era of a day number.** -/
theorem era_spec {y n : ℤ} (hn : 0 ≤ n ∧ n ≤ 365)
    (hleap : n = 365 → (y + 1) % 4 = 0 ∧ ((y + 1) % 100 = 0 → (y + 1) % 400 = 0)) :
    let day := y % 400 * 365 + y % 400 / 4 - y % 400 / 100 + n
    (y / 400 * 146097 + day) / 146097 = y / 400 ∧ (y / 400 * 146097 + day) % 146097 = day
      ∧ (day - day / 1460 + day / 36524 - day / 146096) / 365 = y % 400 := by
  intro day
  have hera := dayOfEra_year hn hleap
  have hday : day = 36524 * (y % 400 / 100) + 1461 * (y % 100 / 4) + 365 * (y % 4) + n := by
    simp only [day]
    clear hn hleap hera
    omega
  have hyears := years_eq hera hday
  have hrange := day_lt hera hday
  generalize day = day at *
  refine ⟨?_, ?_, hyears.trans ?_⟩
  · clear hyears hday hera hleap hn
    omega
  · clear hyears hday hera hleap hn
    omega
  · clear hyears hday hera hleap hn
    omega

/-- The day of the year, and the month it falls in, both from March. -/
theorem dayOfYear_spec {year month day : ℕ} (hmonth : 1 ≤ month ∧ month ≤ 12)
    (hday : 1 ≤ day ∧ day ≤ monthLength year month) :
    let shifted : ℤ := (month + 9) % 12
    let dayOfYear := (153 * shifted + 2) / 5 + day - 1
    (0 ≤ dayOfYear ∧ dayOfYear ≤ 365) ∧ (dayOfYear = 365 → month = 2 ∧ IsLeap year)
      ∧ (5 * dayOfYear + 2) / 153 = shifted := by
  obtain ⟨hlow, hhigh⟩ := hmonth
  obtain ⟨hfirst, hlength⟩ := hday
  have hfebruary : month = 2 → day = 29 → IsLeap year := fun hmonth hlast => by
    rw [hmonth, hlast, monthLength, if_pos rfl] at hlength
    by_contra hleap
    rw [if_neg hleap] at hlength
    omega
  have hlast : day ≤ if month = 2 then 29
      else if month = 4 ∨ month = 6 ∨ month = 9 ∨ month = 11 then 30 else 31 := by
    refine hlength.trans ?_
    rw [monthLength]
    split_ifs <;> decide
  clear hlength
  interval_cases month <;> norm_num at hfebruary hlast ⊢ <;> grind

/-- **A date of the calendar is the date of its day number.** -/
theorem civilFromDays_daysFromCivil {d : Date} (h : d.Valid) :
    civilFromDays (daysFromCivil d.year d.month d.day)
      = ((d.year : ℤ), (d.month : ℤ), (d.day : ℤ)) := by
  obtain ⟨hn, hlast, hshifted⟩ := dayOfYear_spec h.month h.day
  have hmonth : (if ((d.month : ℤ) + 9) % 12 < 10 then ((d.month : ℤ) + 9) % 12 + 3
      else ((d.month : ℤ) + 9) % 12 - 9) = d.month := by
    obtain ⟨hlow, hhigh⟩ := h.month
    clear hn hlast hshifted
    split <;> omega
  rw [daysFromCivil]
  generalize hy : (if (d.month : ℤ) ≤ 2 then (d.year : ℤ) - 1 else d.year) = y
  have hcarry : y % 400 + y / 400 * 400 + (if (d.month : ℤ) ≤ 2 then 1 else 0) = d.year := by
    clear hn hlast hshifted hmonth
    split at hy <;> omega
  generalize ((d.month : ℤ) + 9) % 12 = shifted at *
  generalize hdoy : (153 * shifted + 2) / 5 + (d.day : ℤ) - 1 = n at *
  have hleap : n = 365 → (y + 1) % 4 = 0 ∧ ((y + 1) % 100 = 0 → (y + 1) % 400 = 0) := fun hn => by
    obtain ⟨hfebruary, hyear⟩ := hlast hn
    rw [hfebruary] at hy
    rw [IsLeap] at hyear
    norm_num at hy
    clear hn hlast hdoy hshifted hmonth hcarry
    omega
  obtain ⟨hera, hday, hyear⟩ := era_spec hn hleap
  have hnumber : y / 400 * 146097 + y % 400 * 365 + y % 400 / 4 - y % 400 / 100 + n - 719468
      + 719468 = y / 400 * 146097 + (y % 400 * 365 + y % 400 / 4 - y % 400 / 100 + n) := by ring
  have hrest : y % 400 * 365 + y % 400 / 4 - y % 400 / 100 + n
      - (365 * (y % 400) + y % 400 / 4 - y % 400 / 100) = n := by ring
  rw [civilFromDays, hnumber, hera, hday, hyear, hrest, hshifted, hmonth, hcarry, ← hdoy]
  ring_nf

/-! ## Moments from seconds -/

/-- The moment is the one a `time_t` stands for. -/
structure Tells (m : Moment) (t : ℤ) : Prop where
  valid : m.Valid
  day : t / 86400 = daysFromCivil m.year m.month m.day
  second : t % 86400 = m.secondOfDay
  weekday : (t / 86400 + 4) % 7 = m.weekday % 7

/-- **A tick is one second.** -/
theorem Tells.tick {m : Moment} {t : ℤ} (h : Tells m t) : Tells m.tick (t + 1) := by
  have hsecond := h.second
  have hlt := h.valid.tick.secondOfDay_lt
  obtain ⟨hdate, -, hsec⟩ | ⟨hlast, htick⟩ := Moment.tick_cases h.valid
  · have hday : (t + 1) / 86400 = t / 86400 := by omega
    refine ⟨h.valid.tick, ?_, by omega, ?_⟩
    · rw [hday, h.day, hdate]
    · rw [hday, h.weekday, hdate]
  · have hday : (t + 1) / 86400 = t / 86400 + 1 := by omega
    refine ⟨h.valid.tick, ?_, ?_, ?_⟩
    · rw [hday, h.day, htick]
      exact (daysFromCivil_next h.valid.date).symm
    · rw [htick]
      simp only [Moment.secondOfDay]
      omega
    · have hweekday : m.toDate.next.weekday = m.weekday % 7 + 1 := by
        rw [Date.next]
        split_ifs <;> rfl
      have := h.weekday
      rw [htick, hday]
      simp only [hweekday]
      omega

theorem Tells.iterate {m : Moment} {t : ℤ} (h : Tells m t) :
    ∀ n : ℕ, Tells (Moment.tick^[n] m) (t + n)
  | 0 => by simpa using h
  | n + 1 => by
    rw [Function.iterate_succ_apply', Nat.cast_succ, ← add_assoc]
    exact (h.iterate n).tick

/-- **The clock tells every second from the epoch on.** -/
theorem tells_clock (k : ℕ) : Tells (clock k) k := by
  have hepoch : Tells epoch 0 := ⟨valid_epoch, by decide, by decide, by decide⟩
  have hclock := hepoch.iterate k
  rwa [zero_add] at hclock

/-- A `time_t` stands for one moment. -/
theorem Tells.unique {m m' : Moment} {t : ℤ} (h : Tells m t) (h' : Tells m' t) : m = m' := by
  have hdate := civilFromDays_daysFromCivil h.valid.date
  rw [← h.day, h'.day, civilFromDays_daysFromCivil h'.valid.date] at hdate
  simp only [Prod.mk.injEq, Nat.cast_inj] at hdate
  have hsecond := h.second.symm.trans h'.second
  have hweekday := h.weekday.symm.trans h'.weekday
  obtain ⟨-, -, hw⟩ := h.valid.date
  obtain ⟨-, -, hw'⟩ := h'.valid.date
  obtain ⟨-, -, hminute, hsec⟩ := h.valid
  obtain ⟨-, -, hminute', hsec'⟩ := h'.valid
  obtain ⟨⟨year, month, day, weekday⟩, hour, minute, second⟩ := m
  obtain ⟨⟨year', month', day', weekday'⟩, hour', minute', second'⟩ := m'
  simp only [Moment.secondOfDay, Moment.mk.injEq, Date.mk.injEq] at *
  omega

/-- The `struct tm` of a moment. -/
def Tm.ofMoment (m : Moment) : Tm where
  year := m.year - 1900
  mon := m.month - 1
  mday := m.day
  hour := m.hour
  min := m.minute
  sec := m.second
  wday := m.weekday % 7

/-- **`localtime` reads the moment.** -/
theorem Tells.localtime {m : Moment} {t : ℤ} (h : Tells m t) :
    Host.utc.localtime t = some (.ofMoment m) := by
  have hsecond := h.second
  have hminute := h.valid.minute
  have hsec := h.valid.second
  rw [Moment.secondOfDay] at hsecond
  have h1 : t % 86400 / 3600 = m.hour := by omega
  have h2 : t % 3600 / 60 = m.minute := by omega
  have h3 : t % 60 = m.second := by omega
  simp only [Host.utc, h.weekday, h1, h2, h3]
  rw [h.day, civilFromDays_daysFromCivil h.valid.date]
  rfl

end Controller
