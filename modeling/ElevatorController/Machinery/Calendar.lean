import Mathlib

/-!
# Machinery/Calendar — the Gregorian calendar, as a clock that ticks

    Thu 1970-01-01 00:00:00 ──▸ 00:00:01 ──▸ … ──▸ Fri 1970-01-02 00:00:00 ──▸ …
          clock 0                clock 1                 clock 86400

`Date.next` and `Moment.tick` carry from one field into the next and know nothing of day numbers;
`clock k` is `k` ticks from the epoch.  What a conversion from seconds computes can be compared with
it.
-/

namespace Calendar

/-! ## Dates -/

/-- The leap years: every fourth, but of the centuries only every fourth. -/
def IsLeap (year : ℕ) : Prop := year % 4 = 0 ∧ (year % 100 = 0 → year % 400 = 0)

instance (year : ℕ) : Decidable (IsLeap year) :=
  inferInstanceAs (Decidable (year % 4 = 0 ∧ (year % 100 = 0 → year % 400 = 0)))

/-- The days of a month. -/
def monthLength (year month : ℕ) : ℕ :=
  if month = 2 then if IsLeap year then 29 else 28
  else if month = 4 ∨ month = 6 ∨ month = 9 ∨ month = 11 then 30 else 31

/-- A date; the weekdays are 1 = Monday … 7 = Sunday. -/
structure Date where
  year : ℕ
  month : ℕ
  day : ℕ
  weekday : ℕ
  deriving DecidableEq

/-- The date is on the calendar. -/
structure Date.Valid (d : Date) : Prop where
  month : 1 ≤ d.month ∧ d.month ≤ 12
  day : 1 ≤ d.day ∧ d.day ≤ monthLength d.year d.month
  weekday : 1 ≤ d.weekday ∧ d.weekday ≤ 7

/-- The next day. -/
def Date.next (d : Date) : Date :=
  if d.day < monthLength d.year d.month then ⟨d.year, d.month, d.day + 1, d.weekday % 7 + 1⟩
  else if d.month < 12 then ⟨d.year, d.month + 1, 1, d.weekday % 7 + 1⟩
  else ⟨d.year + 1, 1, 1, d.weekday % 7 + 1⟩

theorem one_le_monthLength (year month : ℕ) : 1 ≤ monthLength year month := by
  rw [monthLength]
  split_ifs <;> decide

theorem monthLength_le (year month : ℕ) : monthLength year month ≤ 31 := by
  rw [monthLength]
  split_ifs <;> decide

/-- **The day after a date of the calendar is on the calendar.** -/
theorem Date.Valid.next {d : Date} (h : d.Valid) : d.next.Valid := by
  have hweekday : 1 ≤ d.weekday % 7 + 1 ∧ d.weekday % 7 + 1 ≤ 7 := by omega
  rw [Date.next]
  split_ifs with hday hmonth
  · exact ⟨h.month, ⟨Nat.le_add_left 1 d.day, hday⟩, hweekday⟩
  · exact ⟨⟨Nat.le_add_left 1 d.month, hmonth⟩, ⟨le_rfl, one_le_monthLength _ _⟩, hweekday⟩
  · exact ⟨⟨le_rfl, Nat.le_add_left 1 11⟩, ⟨le_rfl, one_le_monthLength _ _⟩, hweekday⟩

/-! ## Moments -/

/-- A second of a day. -/
structure Moment extends Date where
  hour : ℕ
  minute : ℕ
  second : ℕ
  deriving DecidableEq

/-- The moment is on the calendar and on the clock. -/
structure Moment.Valid (m : Moment) : Prop where
  date : m.toDate.Valid
  hour : m.hour ≤ 23
  minute : m.minute ≤ 59
  second : m.second ≤ 59

/-- The next second. -/
def Moment.tick (m : Moment) : Moment :=
  if m.second < 59 then { m with second := m.second + 1 }
  else if m.minute < 59 then { m with minute := m.minute + 1, second := 0 }
  else if m.hour < 23 then { m with hour := m.hour + 1, minute := 0, second := 0 }
  else { toDate := m.toDate.next, hour := 0, minute := 0, second := 0 }

/-- The second of the day. -/
def Moment.secondOfDay (m : Moment) : ℕ := m.hour * 3600 + m.minute * 60 + m.second

theorem Moment.Valid.secondOfDay_lt {m : Moment} (h : m.Valid) : m.secondOfDay < 86400 := by
  have hhour := h.hour
  have hminute := h.minute
  have hsecond := h.second
  rw [secondOfDay]
  omega

/-- **What a tick can do**: count a second of the day, or begin the next. -/
theorem Moment.tick_cases {m : Moment} (h : m.Valid) :
    (m.tick.toDate = m.toDate ∧ (m.tick.hour ≤ 23 ∧ m.tick.minute ≤ 59 ∧ m.tick.second ≤ 59)
      ∧ m.tick.secondOfDay = m.secondOfDay + 1)
    ∨ (m.secondOfDay + 1 = 86400
      ∧ m.tick = { toDate := m.toDate.next, hour := 0, minute := 0, second := 0 }) := by
  have hhour := h.hour
  have hminute := h.minute
  have hsecond := h.second
  rw [tick]
  split
  · rename_i hsec
    refine Or.inl ⟨rfl, ⟨hhour, hminute, hsec⟩, ?_⟩
    simp only [secondOfDay]
    omega
  split
  · rename_i hsec hmin
    refine Or.inl ⟨rfl, ⟨hhour, hmin, Nat.zero_le _⟩, ?_⟩
    simp only [secondOfDay]
    omega
  split
  · rename_i hsec hmin hhr
    refine Or.inl ⟨rfl, ⟨hhr, Nat.zero_le _, Nat.zero_le _⟩, ?_⟩
    simp only [secondOfDay]
    omega
  · refine Or.inr ⟨?_, rfl⟩
    rw [secondOfDay]
    omega

theorem Moment.Valid.tick {m : Moment} (h : m.Valid) : m.tick.Valid := by
  obtain ⟨hdate, ⟨hhour, hminute, hsecond⟩, -⟩ | ⟨-, htick⟩ := Moment.tick_cases h
  · exact ⟨by rw [hdate]; exact h.date, hhour, hminute, hsecond⟩
  · rw [htick]
    exact ⟨h.date.next, by simp, by simp, by simp⟩

/-- Midnight before Thursday, the first of January 1970. -/
def epoch : Moment where
  year := 1970
  month := 1
  day := 1
  weekday := 4
  hour := 0
  minute := 0
  second := 0

/-- The moment so many seconds after the epoch. -/
def clock (seconds : ℕ) : Moment := Moment.tick^[seconds] epoch

theorem clock_add (k n : ℕ) : clock (k + n) = Moment.tick^[n] (clock k) := by
  rw [clock, clock, Nat.add_comm, Function.iterate_add_apply]

theorem clock_succ (k : ℕ) : clock (k + 1) = (clock k).tick := clock_add k 1

/-- The years do not run back. -/
theorem Moment.year_le_tick (m : Moment) : m.year ≤ m.tick.year := by
  rw [tick]
  split_ifs
  · exact le_rfl
  · exact le_rfl
  · exact le_rfl
  · change m.year ≤ m.toDate.next.year
    rw [Date.next]
    split_ifs
    · exact le_rfl
    · exact le_rfl
    · exact Nat.le_succ m.year

theorem year_clock (k : ℕ) : 1970 ≤ (clock k).year := by
  induction k with
  | zero => exact le_rfl
  | succ k ih =>
    rw [clock_succ]
    exact ih.trans (Moment.year_le_tick _)

theorem valid_epoch : epoch.Valid :=
  ⟨⟨by decide, by decide, by decide⟩, by decide, by decide, by decide⟩

end Calendar
