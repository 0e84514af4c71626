import Mathlib.Data.Int.Order.Basic
import Mathlib.Order.Monotone.Basic
import Mathlib.Tactic.IntervalCases
import Reckoner.Calendar.Date

namespace Reckoner.Calendar

/-- A day by the parts of the calendar whose years begin in March: the era of 400 years, the year in it, the month
counted from March as zero, and the day of the month. -/
structure Place where
  era : ℤ
  year : ℤ
  month : ℤ
  day : ℤ

namespace Place

/-- The days of an era before a year of it. -/
def yearStart (year : ℤ) : ℤ := year * 365 + year / 4 - year / 100

/-- The days of a year before a month of it. -/
def monthStart (month : ℤ) : ℤ := (153 * month + 2) / 5

/-- The year of an era ends with a leap day. The last year of the era does. -/
def EndsLong (year : ℤ) : Prop := (year + 1) % 4 = 0 ∧ ((year + 1) % 100 = 0 → year = 399)

/-- The day of the year, counted from zero. -/
def dayOfYear (p : Place) : ℤ := monthStart p.month + p.day - 1

/-- The days of an era up to the place. -/
def dayOfEra (p : Place) : ℤ := yearStart p.year + p.dayOfYear

/-- The days from 1 January 1970 to the place. -/
def days (p : Place) : ℤ := p.era * 146097 + p.dayOfEra - 719468

/-- The date of a place. January and February belong to the next year. -/
def date (p : Place) : Date where
  year := p.era * 400 + p.year + if p.month < 10 then 0 else 1
  month := (if p.month < 10 then p.month + 3 else p.month - 9).toNat
  day := p.day.toNat

/-- The last month of a year is February, and all others last until the next one starts. -/
structure IsValid (p : Place) : Prop where
  year_nonneg : 0 ≤ p.year
  year_lt : p.year < 400
  month_nonneg : 0 ≤ p.month
  month_lt : p.month < 12
  day_pos : 1 ≤ p.day
  day_le : p.month < 11 → monthStart p.month + p.day ≤ monthStart (p.month + 1)
  february : p.month = 11 → p.day ≤ 28 ∨ p.day = 29 ∧ EndsLong p.year

section Years

variable {c q z d : ℤ}

/-- A year is found again from a day of it: `c` centuries, `q` times four years and `z` years of the era have passed.
The corrections of the formula count the leap days so far, and one day more on the leap day itself. The last day of an
era is the only one on which the quotients by 36524 and 146096 run ahead. -/
theorem year_of_day (c_nonneg : 0 ≤ c) (c_le : c ≤ 3) (q_nonneg : 0 ≤ q) (q_le : q ≤ 24) (z_nonneg : 0 ≤ z)
    (z_le : z ≤ 3) (d_nonneg : 0 ≤ d) (d_le : d ≤ 364 ∨ d = 365 ∧ z = 3 ∧ (q = 24 → c = 3)) (e : ℤ)
    (day : e = 36524 * c + 1461 * q + 365 * z + d) :
    (e - e / 1460 + e / 36524 - e / 146096) / 365 = 100 * c + 4 * q + z := by
  by_cases last : c = 3 ∧ q = 24 ∧ d = 365
  · obtain ⟨rfl, rfl, rfl⟩ := last
    have : z = 3 := by omega
    subst this
    subst day
    decide
  · have short : 1461 * q + 365 * z + d < 36524 := by omega
    have centuries : e / 36524 = c := by omega
    have eras : e / 146096 = 0 := by omega
    obtain ⟨g, cycles, g_nonneg, g_le⟩ : ∃ g, e / 1460 = 25 * c + q + g ∧ 0 ≤ g ∧ g ≤ 1 :=
      ⟨e / 1460 - (25 * c + q), by omega, by omega, by omega⟩
    have first : d = 0 → g = 0 := by omega
    have leap : d = 365 → g = 1 := by omega
    rw [centuries, eras, cycles]
    omega

/-- Every year of an era passes after some centuries, some times four years, and some years. -/
theorem year_parts {y : ℤ} (nonneg : 0 ≤ y) (lt : y < 400) : ∃ c q z, y = 100 * c + 4 * q + z ∧ 0 ≤ c ∧ c ≤ 3 ∧
    0 ≤ q ∧ q ≤ 24 ∧ 0 ≤ z ∧ z ≤ 3 ∧ yearStart y = 36524 * c + 1461 * q + 365 * z :=
  ⟨y / 100, y % 100 / 4, y % 4, by omega, by omega, by omega, by omega, by omega, by omega, by omega,
    by unfold yearStart; omega⟩

end Years

/-- A month is found again from a day of it. -/
theorem month_of_day {m k : ℤ} (nonneg : 0 ≤ m) (lt : m < 12) (pos : 1 ≤ k)
    (le : m < 11 → monthStart m + k ≤ monthStart (m + 1)) (february : m = 11 → k ≤ 29) :
    (5 * (monthStart m + k - 1) + 2) / 153 = m := by
  unfold monthStart at *
  omega

namespace IsValid

variable {p : Place}

theorem dayOfYear_bounds (valid : p.IsValid) :
    0 ≤ p.dayOfYear ∧ (p.dayOfYear ≤ 364 ∨ p.dayOfYear = 365 ∧ EndsLong p.year) := by
  obtain ⟨-, -, month_nonneg, month_lt, day_pos, day_le, february⟩ := valid
  unfold dayOfYear monthStart EndsLong at *
  omega

theorem yearOfEra_eq (valid : p.IsValid) :
    (p.dayOfEra - p.dayOfEra / 1460 + p.dayOfEra / 36524 - p.dayOfEra / 146096) / 365 = p.year := by
  obtain ⟨c, q, z, parts, c_nonneg, c_le, q_nonneg, q_le, z_nonneg, z_le, start⟩ :=
    year_parts valid.year_nonneg valid.year_lt
  obtain ⟨day_nonneg, day_le⟩ := valid.dayOfYear_bounds
  have day_le : p.dayOfYear ≤ 364 ∨ p.dayOfYear = 365 ∧ z = 3 ∧ (q = 24 → c = 3) := by
    rcases day_le with short | ⟨leap, four, hundred⟩
    · exact .inl short
    · exact .inr ⟨leap, by omega, by omega⟩
  rw [parts]
  exact year_of_day c_nonneg c_le q_nonneg q_le z_nonneg z_le day_nonneg day_le _ (by rw [dayOfEra, start])

theorem dayOfEra_bounds (valid : p.IsValid) : 0 ≤ p.dayOfEra ∧ p.dayOfEra < 146097 := by
  obtain ⟨day_nonneg, day_le⟩ := valid.dayOfYear_bounds
  have first := valid.year_nonneg
  have last := valid.year_lt
  unfold dayOfEra yearStart
  rcases day_le with day_le | ⟨leap, -⟩
  · omega
  · omega

theorem month_eq (valid : p.IsValid) : (5 * p.dayOfYear + 2) / 153 = p.month :=
  month_of_day valid.month_nonneg valid.month_lt valid.day_pos valid.day_le fun last => by
    have := valid.february last
    omega

/-- The date of the days of a place is its date. -/
theorem ofDays_days (valid : p.IsValid) : Date.ofDays p.days = p.date := by
  obtain ⟨nonneg, lt⟩ := valid.dayOfEra_bounds
  have shifted : p.days + 719468 = p.era * 146097 + p.dayOfEra := by unfold days; omega
  have era : (p.days + 719468) / 146097 = p.era := by omega
  have dayOfEra : (p.days + 719468) % 146097 = p.dayOfEra := by omega
  have dayOfYear : p.dayOfEra - (365 * p.year + p.year / 4 - p.year / 100) = p.dayOfYear := by
    unfold Place.dayOfEra yearStart
    omega
  have day : p.dayOfYear - (153 * p.month + 2) / 5 + 1 = p.day := by
    unfold Place.dayOfYear monthStart
    omega
  have month_nonneg := valid.month_nonneg
  have month_lt := valid.month_lt
  unfold Date.ofDays date
  dsimp only
  rw [era, dayOfEra, valid.yearOfEra_eq, dayOfYear, valid.month_eq, day]
  congr 1
  split <;> split <;> omega

/-- The days of the date of a place are its days. -/
theorem toDays_date (valid : p.IsValid) : p.date.toDays = p.days := by
  have year_nonneg := valid.year_nonneg
  have year_lt := valid.year_lt
  have month_nonneg := valid.month_nonneg
  have month_lt := valid.month_lt
  have day_pos := valid.day_pos
  have year : (if p.date.month ≤ 2 then p.date.year - 1 else p.date.year) = p.era * 400 + p.year := by
    unfold date
    dsimp only
    split <;> split <;> omega
  have month : (if p.date.month ≤ 2 then (p.date.month + 9 : ℤ) else (p.date.month : ℤ) - 3) = p.month := by
    unfold date
    dsimp only
    split <;> split <;> omega
  have day : (p.date.day : ℤ) = p.day := Int.toNat_of_nonneg (by omega)
  have era : (p.era * 400 + p.year) / 400 = p.era := by omega
  have rest : (p.era * 400 + p.year) % 400 = p.year := by omega
  unfold Date.toDays
  dsimp only
  rw [year, month, day, era, rest]
  unfold days dayOfEra yearStart dayOfYear monthStart
  omega

end IsValid

/-- Every day of a year lies in a month. -/
theorem exists_month {y k : ℤ} (nonneg : 0 ≤ k) (le : k ≤ 364 ∨ k = 365 ∧ EndsLong y) (era : ℤ) (first : 0 ≤ y)
    (last : y < 400) : ∃ p : Place, p.IsValid ∧ p.era = era ∧ p.year = y ∧ p.dayOfYear = k := by
  obtain ⟨m, month⟩ : ∃ m, m = (5 * k + 2) / 153 := ⟨_, rfl⟩
  have bounded : 0 ≤ m ∧ m < 12 := by omega
  have started : monthStart m ≤ k := by unfold monthStart; omega
  have before : m < 11 → k < monthStart (m + 1) := by unfold monthStart; omega
  have february : m = 11 → k - monthStart m < 28 ∨ k - monthStart m = 28 ∧ EndsLong y := by
    unfold monthStart EndsLong at *
    omega
  refine ⟨⟨era, y, m, k - monthStart m + 1⟩, ⟨first, last, bounded.1, bounded.2, ?_, ?_, ?_⟩, rfl, rfl, ?_⟩
  · change 1 ≤ k - monthStart m + 1
    omega
  · intro early
    change monthStart m + (k - monthStart m + 1) ≤ monthStart (m + 1)
    have := before early
    omega
  · intro late
    change k - monthStart m + 1 ≤ 28 ∨ k - monthStart m + 1 = 29 ∧ EndsLong y
    exact (february late).imp (fun _ => by omega) fun ⟨_, long⟩ => ⟨by omega, long⟩
  · change monthStart m + (k - monthStart m + 1) - 1 = k
    omega

/-- Every day of an era lies in a year. -/
theorem exists_year {e : ℤ} (nonneg : 0 ≤ e) (lt : e < 146097) :
    ∃ y k, 0 ≤ y ∧ y < 400 ∧ 0 ≤ k ∧ (k ≤ 364 ∨ k = 365 ∧ EndsLong y) ∧ e = yearStart y + k := by
  obtain ⟨c, r, century, c_nonneg, c_le, r_nonneg, r_le⟩ :
      ∃ c r, e = 36524 * c + r ∧ 0 ≤ c ∧ c ≤ 3 ∧ 0 ≤ r ∧ (r < 36524 ∨ c = 3 ∧ r = 36524) :=
    ⟨min (e / 36524) 3, e - 36524 * min (e / 36524) 3, by omega, by omega, by omega, by omega, by omega⟩
  obtain ⟨q, s, cycle, q_nonneg, q_le, s_nonneg, s_le⟩ :
      ∃ q s, r = 1461 * q + s ∧ 0 ≤ q ∧ q ≤ 24 ∧ 0 ≤ s ∧ s < 1461 :=
    ⟨r / 1461, r % 1461, by omega, by omega, by omega, by omega, by omega⟩
  obtain ⟨z, k, year, z_nonneg, z_le, k_nonneg, k_le⟩ :
      ∃ z k, s = 365 * z + k ∧ 0 ≤ z ∧ z ≤ 3 ∧ 0 ≤ k ∧ (k ≤ 364 ∨ z = 3 ∧ k = 365) :=
    ⟨min (s / 365) 3, s - 365 * min (s / 365) 3, by omega, by omega, by omega, by omega, by omega⟩
  refine ⟨100 * c + 4 * q + z, k, by omega, by omega, k_nonneg, ?_, by unfold yearStart; omega⟩
  unfold EndsLong
  omega

/-- Every number of days is that of a place. -/
theorem exists_days (n : ℤ) : ∃ p : Place, p.IsValid ∧ p.days = n := by
  obtain ⟨y, k, first, last, nonneg, le, day⟩ := exists_year (e := (n + 719468) % 146097) (by omega) (by omega)
  obtain ⟨p, valid, era, year, dayOfYear⟩ := exists_month nonneg le ((n + 719468) / 146097) first last
  refine ⟨p, valid, ?_⟩
  rw [days, dayOfEra, era, year, dayOfYear, ← day]
  omega

end Place

namespace Date

variable {d : Date}

/-- The month and the day exist. -/
def IsCivil (d : Date) : Prop := 1 ≤ d.month ∧ d.month ≤ 12 ∧ 1 ≤ d.day ∧ d.day ≤ daysInMonth d.year d.month

theorem isLeapYear_iff (era y : ℤ) (first : 0 ≤ y) (last : y < 400) :
    isLeapYear (era * 400 + y + 1) = true ↔ Place.EndsLong y := by
  unfold isLeapYear Place.EndsLong
  simp only [Bool.and_eq_true, Bool.or_eq_true, beq_iff_eq, bne_iff_ne]
  omega

/-- A month other than February lasts until the next one starts. -/
theorem daysInMonth_eq (year : ℤ) {m : ℤ} (nonneg : 0 ≤ m) (lt : m < 11) :
    (daysInMonth year (if m < 10 then m + 3 else m - 9).toNat : ℤ) = Place.monthStart (m + 1) - Place.monthStart m := by
  interval_cases m <;> rfl

theorem daysInMonth_february (era : ℤ) {y : ℤ} (first : 0 ≤ y) (last : y < 400) (k : ℤ) :
    k ≤ (daysInMonth (era * 400 + y + 1) 2 : ℤ) ↔ k ≤ 28 ∨ k = 29 ∧ Place.EndsLong y := by
  rw [daysInMonth, if_pos rfl, ← isLeapYear_iff era y first last]
  cases isLeapYear (era * 400 + y + 1)
  · simp
  · simp
    omega

theorem isCivil_date {p : Place} (valid : p.IsValid) : p.date.IsCivil := by
  have month_nonneg := valid.month_nonneg
  have month_lt := valid.month_lt
  have day_pos := valid.day_pos
  have month : 1 ≤ p.date.month ∧ p.date.month ≤ 12 := by
    unfold Place.date
    dsimp only
    split <;> omega
  have day : (p.date.day : ℤ) = p.day := Int.toNat_of_nonneg (by omega)
  have last : p.day ≤ (daysInMonth p.date.year p.date.month : ℤ) := by
    unfold Place.date
    rcases eq_or_lt_of_le (Int.le_sub_one_of_lt month_lt) with february | before
    · rw [february]
      exact (daysInMonth_february p.era valid.year_nonneg valid.year_lt _).2 (valid.february february)
    · rw [daysInMonth_eq _ month_nonneg before]
      have := valid.day_le before
      omega
  exact ⟨month.1, month.2, by omega, by omega⟩

theorem IsCivil.exists_place (civil : d.IsCivil) : ∃ p : Place, p.IsValid ∧ p.date = d := by
  obtain ⟨month_pos, month_le, day_pos, day_le⟩ := civil
  obtain ⟨p, first, last, parts, day⟩ : ∃ p : Place, 0 ≤ p.year ∧ p.year < 400 ∧
      (d.month ≤ 2 ∧ p.era * 400 + p.year = d.year - 1 ∧ p.month = d.month + 9 ∨
        2 < d.month ∧ p.era * 400 + p.year = d.year ∧ p.month = d.month - 3) ∧ p.day = d.day := by
    by_cases early : d.month ≤ 2
    · refine ⟨⟨(d.year - 1) / 400, (d.year - 1) % 400, d.month + 9, d.day⟩, ?_⟩
      dsimp only
      omega
    · refine ⟨⟨d.year / 400, d.year % 400, d.month - 3, d.day⟩, ?_⟩
      dsimp only
      omega
  have month : (if p.month < 10 then p.month + 3 else p.month - 9).toNat = d.month := by split <;> omega
  have year : p.era * 400 + p.year + (if p.month < 10 then 0 else 1) = d.year := by split <;> omega
  refine ⟨p, ⟨first, last, by omega, by omega, by omega, ?_, ?_⟩, ?_⟩
  · intro before
    have length := daysInMonth_eq d.year (m := p.month) (by omega) before
    rw [month] at length
    omega
  · intro february
    have long := daysInMonth_february p.era first last p.day
    have second : d.month = 2 := by omega
    have next : p.era * 400 + p.year + 1 = d.year := by omega
    rw [next, ← second] at long
    exact long.1 (by omega)
  · unfold Place.date
    rw [month, year, day, Int.toNat_natCast]

/-- Going from days to the date and back. -/
theorem toDays_ofDays (n : ℤ) : (ofDays n).toDays = n := by
  obtain ⟨p, valid, rfl⟩ := Place.exists_days n
  rw [valid.ofDays_days, valid.toDays_date]

theorem isCivil_ofDays (n : ℤ) : (ofDays n).IsCivil := by
  obtain ⟨p, valid, rfl⟩ := Place.exists_days n
  rw [valid.ofDays_days]
  exact isCivil_date valid

/-- Going from a date to the days and back. -/
theorem ofDays_toDays (civil : d.IsCivil) : ofDays d.toDays = d := by
  obtain ⟨p, valid, rfl⟩ := civil.exists_place
  rw [valid.toDays_date, valid.ofDays_days]

theorem daysInMonth_le (year : ℤ) (month : ℕ) : daysInMonth year month ≤ 31 := by
  unfold daysInMonth
  split
  · split <;> omega
  · split <;> omega

/-- The days from 1 March of year 0 to 1 March of another year. -/
def marchStart (year : ℤ) : ℤ := year * 365 + year / 4 - year / 100 + year / 400

theorem marchStart_add_le {y z : ℤ} (lt : y < z) : marchStart y + 365 ≤ marchStart z := by
  have next (y : ℤ) : marchStart y + 365 ≤ marchStart (y + 1) := by
    unfold marchStart
    omega
  have mono : Monotone marchStart := monotone_int_of_le_succ fun y => by
    have := next y
    omega
  have := next y
  have := mono (Int.add_one_le_of_lt lt)
  omega

/-- The days of a date counted from March of the year that it belongs to. -/
theorem toDays_eq (civil : d.IsCivil) : ∃ y k, d.toDays = marchStart y + k - 719468 ∧
    (d.month ≤ 2 ∧ y = d.year - 1 ∧ 306 ≤ k ∧ k ≤ 367 ∨ 2 < d.month ∧ y = d.year ∧ 0 ≤ k ∧ k ≤ 305) := by
  obtain ⟨month_pos, month_le, day_pos, day_le⟩ := civil
  have short := daysInMonth_le d.year d.month
  unfold toDays
  dsimp only
  split
  · exact ⟨d.year - 1, (153 * (d.month + 9) + 2) / 5 + d.day - 1, by unfold marchStart; omega, by omega⟩
  · exact ⟨d.year, (153 * (d.month - 3) + 2) / 5 + d.day - 1, by unfold marchStart; omega, by omega⟩

/-- Later years have later days. -/
theorem year_lt_iff (civil : d.IsCivil) (year : ℤ) : d.year < year ↔ d.toDays < (Date.mk year 1 1).toDays := by
  have start : (Date.mk year 1 1).toDays = marchStart (year - 1) + 306 - 719468 := by
    unfold toDays marchStart
    dsimp only
    split <;> omega
  obtain ⟨y, k, days, parts⟩ := toDays_eq civil
  rw [start, days]
  rcases lt_trichotomy y (year - 1) with less | rfl | greater
  · have := marchStart_add_le less
    omega
  · omega
  · have := marchStart_add_le greater
    omega

/-- In range are just the dates whose days are. -/
theorem isValid_iff (civil : d.IsCivil) : d.IsValid ↔ firstDay ≤ d.toDays ∧ d.toDays ≤ lastDay := by
  have first := year_lt_iff civil firstYear
  have last := year_lt_iff civil (lastYear + 1)
  have past : (Date.mk (lastYear + 1) 1 1).toDays = lastDay + 1 := by decide
  have start : (Date.mk firstYear 1 1).toDays = firstDay := rfl
  rw [start] at first
  rw [past] at last
  constructor
  · rintro ⟨low, high, -⟩
    omega
  · rintro ⟨low, high⟩
    exact ⟨by omega, by omega, civil⟩

end Date

end Reckoner.Calendar
