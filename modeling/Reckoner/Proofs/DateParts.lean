import Reckoner.Evaluation.Error
import Reckoner.Library.Methods
import Reckoner.Proofs.ValidInstants
import Reckoner.Proofs.WholeDivision

namespace Reckoner.Value

open Calendar Number

/-- The parts that a date is made of. The month counts from zero, and every part may lie outside its usual range. -/
structure DateParts where
  year : ℤ
  month : ℤ
  day : ℤ
  hours : ℤ
  minutes : ℤ
  seconds : ℤ
  millis : ℤ

namespace DateParts

/-- Parts of which the later ones may be missing. -/
def ofList (ns : List ℤ) : DateParts where
  year := ns[0]?.getD 0
  month := ns[1]?.getD 0
  day := ns[2]?.getD 1
  hours := ns[3]?.getD 0
  minutes := ns[4]?.getD 0
  seconds := ns[5]?.getD 0
  millis := ns[6]?.getD 0

/-- Years from 0 to 99 belong to the twentieth century. -/
def fullYear (p : DateParts) : ℤ := if 0 ≤ p.year ∧ p.year ≤ 99 then p.year + 1900 else p.year

/-- The first day of the month, which may lie in another year. -/
def monthDate (p : DateParts) : Date := ⟨p.fullYear + p.month / 12, (p.month % 12).toNat + 1, 1⟩

/-- The milliseconds from the beginning of 1970. -/
def total (p : DateParts) : ℤ :=
  86400000 * p.monthDate.toDays + 86400000 * (p.day - 1) + 3600000 * p.hours + 60000 * p.minutes + 1000 * p.seconds +
    p.millis

/-- The milliseconds of the parts behind the month. -/
def products (p : DateParts) : List ℤ :=
  [86400000 * (p.day - 1), 3600000 * p.hours, 60000 * p.minutes, 1000 * p.seconds, p.millis]

/-- The products and sums that are taken behind the month. -/
def steps (p : DateParts) : List ℤ :=
  (p.day - 1) :: (p.products ++ p.products.scanl (· + ·) (86400000 * p.monthDate.toDays))

/-- All products and sums are below 2 ^ 53. Behind the month there are some only if it begins in range. -/
structure Fits (p : DateParts) : Prop where
  months : (12 * p.fullYear).natAbs < 2 ^ 53 ∧ (12 * p.fullYear + p.month).natAbs < 2 ^ 53
  time : firstYear ≤ p.monthDate.year → p.monthDate.year ≤ lastYear → ∀ n ∈ p.steps, n.natAbs < 2 ^ 53

/-- The month begins in a year that dates may lie in, and so does the day of the instant. -/
def InRange (p : DateParts) : Prop :=
  (firstYear ≤ p.monthDate.year ∧ p.monthDate.year ≤ lastYear) ∧
    firstDay ≤ p.total / 86400000 ∧ p.total / 86400000 ≤ lastDay

instance (p : DateParts) : Decidable p.InRange := inferInstanceAs (Decidable ((_ ∧ _) ∧ _ ∧ _))

/-- The instant of the milliseconds. -/
def instant (p : DateParts) : Instant := ⟨p.total / 1000, (p.total % 1000).toNat * 1000000⟩

/-- A day of a month, without a time. -/
structure IsDay (p : DateParts) : Prop where
  month : 0 ≤ p.month ∧ p.month ≤ 11
  day : 1 ≤ p.day ∧ p.day ≤ daysInMonth p.fullYear (p.month.toNat + 1)
  time : p.hours = 0 ∧ p.minutes = 0 ∧ p.seconds = 0 ∧ p.millis = 0

end DateParts

/-- The number of a value is an integer. -/
def IsInteger (v : Value) (n : ℤ) : Prop := HasValue v.toNumber n

/-- A method of a date gives an integer. -/
def Gives (t : Instant) (method : String) (n : ℤ) : Prop :=
  ∃ x, callMethod (.date t) method [] = some (.ok (.number x)) ∧ HasValue x n

section Arithmetic

variable {x y : Float} {i j : ℤ} {p : DateParts}

theorem emod_eq_tmod (i : ℤ) {j : ℤ} (pos : 0 < j) : i % j = if i.tmod j < 0 then i.tmod j + j else i.tmod j := by
  have whole := Int.mul_tdiv_add_tmod i j
  have below := Int.tmod_lt_of_pos i pos
  have above := Int.lt_tmod_of_pos i pos
  split
  · exact ((Int.ediv_emod_unique (q := i.tdiv j - 1) pos).2 ⟨by linear_combination whole, by omega, by omega⟩).2
  · exact ((Int.ediv_emod_unique (q := i.tdiv j) pos).2 ⟨by linear_combination whole, by omega, by omega⟩).2

theorem hasValue_floorRemainder (left : HasValue x i) (right : HasValue y j) (pos : 0 < j) (short : j.natAbs < 2 ^ 53) :
    HasValue (floorRemainder x y) (i % j : ℤ) := by
  have rest := left.remainder right pos.ne'
  have negative : remainder x y < 0.0 ↔ i.tmod j < 0 :=
    (rest.lt_iff (hasValue_literal 0 (by decide))).trans Int.cast_lt_zero
  have above := Int.lt_tmod_of_pos i pos
  rw [floorRemainder, emod_eq_tmod i pos]
  split
  · rename_i below
    rw [if_pos (negative.1 below)]
    have := negative.1 below
    exact rest.add right (Int.cast_add ..) (by omega)
  · rename_i above
    rw [if_neg fun below => above (negative.2 below)]
    exact rest

end Arithmetic

section Parts

variable {y m d h n s c : Float} {p : DateParts} {args : List Value} {ns : List ℤ}

theorem hasValue_fullYear (year : HasValue y p.year) (small : p.fullYear.natAbs < 2 ^ 53) :
    HasValue (if 0.0 ≤ y ∧ y ≤ 99.0 then 1900.0 + y else y) p.fullYear := by
  have first : 0.0 ≤ y ↔ 0 ≤ p.year := ((hasValue_literal 0 (by decide)).le_iff year).trans Int.cast_le
  have last : y ≤ 99.0 ↔ p.year ≤ 99 := (year.le_iff (hasValue_literal 99 (by decide))).trans Int.cast_le
  unfold DateParts.fullYear at *
  by_cases early : 0 ≤ p.year ∧ p.year ≤ 99
  · rw [if_pos early] at small ⊢
    rw [if_pos (and_congr first last |>.2 early)]
    refine (hasValue_literal 1900 (by decide)).add year ?_ small
    push_cast
    ring
  · rw [if_neg early]
    rwa [if_neg fun early' => early (and_congr first last |>.1 early')]

/-- The first day of the month in the month's own year. -/
theorem monthStart?_eq (year : HasValue y p.year) (month : HasValue m p.month) (fits : p.Fits) :
    monthStart? y m = if firstYear ≤ p.monthDate.year ∧ p.monthDate.year ≤ lastYear then
      some ⟨p.monthDate.toDays * 86400, 0⟩ else none := by
  obtain ⟨product, sum⟩ := fits.months
  have full := hasValue_fullYear year (by omega)
  have twelve : HasValue 12.0 (12 : ℤ) := hasValue_literal 12 (by decide)
  have months := (full.mul twelve (by omega)).add month (i := 12 * p.fullYear + p.month) (by push_cast; ring) sum
  have quotient := (months.floor_div twelve sum (by decide) (by decide)).toInt?
  have rest := (hasValue_floorRemainder months twelve (by decide) (by decide)).toInt?
  have carried : (12 * p.fullYear + p.month) / 12 = p.monthDate.year := by
    change _ = p.fullYear + p.month / 12
    omega
  have place : ((12 * p.fullYear + p.month) % 12).toNat + 1 = p.monthDate.month := by
    change _ = (p.month % 12).toNat + 1
    omega
  rw [monthStart?, quotient, rest, carried]
  dsimp only
  rw [place]
  rfl

theorem timeValue_start (days : ℤ) : Instant.timeValue ⟨days * 86400, 0⟩ = ofInt (86400000 * days) := by
  rw [Instant.timeValue, Instant.millis]
  congr 1
  simp only [Nat.zero_div, Nat.cast_zero]
  ring

/-- The sum of the month, the days and the time of day is exact. -/
theorem hasValue_total (day : HasValue d p.day) (hours : HasValue h p.hours) (minutes : HasValue n p.minutes)
    (seconds : HasValue s p.seconds) (millis : HasValue c p.millis) (small : ∀ n ∈ p.steps, n.natAbs < 2 ^ 53) :
    HasValue (Instant.timeValue ⟨p.monthDate.toDays * 86400, 0⟩ + (d - 1.0) * 86400000.0 + h * 3600000.0 +
      n * 60000.0 + s * 1000.0 + c) p.total := by
  simp only [DateParts.steps, DateParts.products, List.scanl_cons, List.scanl_nil, List.cons_append, List.nil_append,
    List.forall_mem_cons] at small
  obtain ⟨before, day_lt, hours_lt, minutes_lt, seconds_lt, -, start_lt, sum₁, sum₂, sum₃, sum₄, sum₅, -⟩ := small
  rw [timeValue_start]
  have one : HasValue 1.0 (1 : ℤ) := hasValue_literal 1 (by decide)
  have days := (day.sub one (i := p.day - 1) (by push_cast; ring) before).mul (hasValue_literal 86400000 (by decide))
    (by omega)
  have hours := hours.mul (hasValue_literal 3600000 (by decide)) (by omega)
  have minutes := minutes.mul (hasValue_literal 60000 (by decide)) (by omega)
  have seconds := seconds.mul (hasValue_literal 1000 (by decide)) (by omega)
  have first := (hasValue_ofInt start_lt).add days (by push_cast; ring) sum₁
  have second := first.add hours (by push_cast; ring) sum₂
  have third := second.add minutes (by push_cast; ring) sum₃
  have fourth := third.add seconds (by push_cast; ring) sum₄
  exact fourth.add millis (by rw [DateParts.total]; push_cast; ring) sum₅

theorem days_instant (p : DateParts) : p.instant.days = p.total / 86400000 := by
  change p.total / 1000 / 86400 = p.total / 86400000
  omega

theorem millis_instant (p : DateParts) : p.instant.millis = p.total := by
  rw [Instant.millis, DateParts.instant]
  dsimp only
  omega

/-- The sum as an instant, if it lies in range. -/
theorem ofTimeValue?_total (time : HasValue x p.total) : Instant.ofTimeValue? x =
    if firstDay ≤ p.total / 86400000 ∧ p.total / 86400000 ≤ lastDay then some p.instant else none := by
  rw [Instant.ofTimeValue?, time.toInt?, ← days_instant]
  rfl

/-- An argument as a part of a date, or what stands for it if it is missing. -/
theorem hasValue_part (whole : List.Forall₂ IsInteger args ns) {x : Float} {n : ℤ} {i : ℕ}
    (missing : i < ns.length ∨ HasValue x n) : HasValue ((args.map toNumber)[i]?.getD x) (ns[i]?.getD n : ℤ) := by
  induction whole generalizing i with
  | nil => exact missing.resolve_left (Nat.not_lt_zero _)
  | cons first _ ih =>
    cases i with
    | zero => exact first
    | succ i => exact ih (missing.imp_left Nat.lt_of_succ_lt_succ)

/-- The date of whole parts, if it lies in range. -/
theorem dateOfParts_eq (whole : List.Forall₂ IsInteger args ns) (several : 2 ≤ ns.length)
    (given : DateParts.ofList ns = p) (fits : p.Fits) :
    dateOfParts (args.map toNumber) = if p.InRange then .ok (.date p.instant) else .error .invalidTime := by
  subst given
  have zero : HasValue 0.0 (0 : ℤ) := hasValue_literal 0 (by decide)
  have one : HasValue 1.0 (1 : ℤ) := hasValue_literal 1 (by decide)
  have year := hasValue_part (x := notANumber) (n := 0) whole (i := 0) (.inl (by omega))
  have month := hasValue_part whole (i := 1) (.inr zero)
  have day := hasValue_part whole (i := 2) (.inr one)
  have hours := hasValue_part whole (i := 3) (.inr zero)
  have minutes := hasValue_part whole (i := 4) (.inr zero)
  have seconds := hasValue_part whole (i := 5) (.inr zero)
  have millis := hasValue_part whole (i := 6) (.inr zero)
  unfold dateOfParts
  dsimp only
  have finite {x : Float} {n : ℤ} (value : HasValue x n) : (x.isNaN || x.isInf) = false := by
    rw [value.isFinite.1, value.isFinite.2, Bool.or_self]
  rw [if_neg (by simp only [List.any_cons, List.any_nil, finite year, finite month, finite day, finite hours,
    finite minutes, finite seconds, finite millis, Bool.or_self, Bool.false_eq_true, not_false_eq_true])]
  simp only [List.map_cons, List.map_nil, year.trunc, month.trunc, day.trunc, hours.trunc, minutes.trunc, seconds.trunc,
    millis.trunc]
  rw [monthStart?_eq (p := .ofList ns) year month fits]
  by_cases begins : firstYear ≤ (DateParts.ofList ns).monthDate.year ∧ (DateParts.ofList ns).monthDate.year ≤ lastYear
  · have time := hasValue_total (p := .ofList ns) day hours minutes seconds millis (fits.time begins.1 begins.2)
    rw [if_pos begins]
    dsimp only
    rw [ofTimeValue?_total time]
    by_cases inside : firstDay ≤ (DateParts.ofList ns).total / 86400000 ∧
        (DateParts.ofList ns).total / 86400000 ≤ lastDay
    · rw [if_pos inside, if_pos ⟨begins, inside⟩]
    · rw [if_neg inside, if_neg fun range => inside range.2]
  · rw [if_neg begins, if_neg fun range => begins range.1]

theorem makeDate_eq (whole : List.Forall₂ IsInteger args ns) (several : 2 ≤ ns.length) :
    makeDate args = dateOfParts (args.map toNumber) := by
  have length := whole.length_eq
  match args, length with
  | [], length => exact absurd length (by simp; omega)
  | [_], length => exact absurd length (by simp; omega)
  | _ :: _ :: _, _ => rfl

/-- The days of a month follow its first day. -/
theorem toDays_day (year : ℤ) (month day : ℕ) :
    (Date.mk year month day).toDays = (Date.mk year month 1).toDays + (day - 1) := by
  unfold Date.toDays
  dsimp only
  omega

namespace DateParts.IsDay

variable (isDay : p.IsDay)

include isDay

theorem monthDate_eq : p.monthDate = ⟨p.fullYear, p.month.toNat + 1, 1⟩ := by
  obtain ⟨nonneg, le⟩ := isDay.month
  rw [monthDate, Int.ediv_eq_zero_of_lt nonneg (by omega), Int.emod_eq_of_lt nonneg (by omega), add_zero]

theorem total_eq : p.total = 86400000 * (Date.mk p.fullYear (p.month.toNat + 1) p.day.toNat).toDays := by
  obtain ⟨hours, minutes, seconds, millis⟩ := isDay.time
  have positive := isDay.day.1
  rw [toDays_day, total, isDay.monthDate_eq, hours, minutes, seconds, millis]
  omega

/-- The day that is meant by parts without a time. -/
theorem date (first : firstYear ≤ p.fullYear) (last : p.fullYear ≤ lastYear) :
    p.InRange ∧ p.instant.date = ⟨p.fullYear, p.month.toNat + 1, p.day.toNat⟩ := by
  obtain ⟨⟨month_nonneg, month_le⟩, ⟨day_pos, day_le⟩, -⟩ := id isDay
  have civil : (Date.mk p.fullYear (p.month.toNat + 1) p.day.toNat).IsCivil :=
    ⟨by dsimp only; omega, by dsimp only; omega, by dsimp only; omega, by dsimp only; omega⟩
  have days : p.total / 86400000 = (Date.mk p.fullYear (p.month.toNat + 1) p.day.toNat).toDays := by
    rw [isDay.total_eq, Int.mul_ediv_cancel_left _ (by decide)]
  have valid := (Date.isValid_iff civil).1 ⟨first, last, civil⟩
  refine ⟨⟨by rw [isDay.monthDate_eq]; exact ⟨first, last⟩, by rwa [days]⟩, ?_⟩
  rw [Instant.date, days_instant, days, Date.ofDays_toDays civil]

end DateParts.IsDay

theorem gives_ofNat {t : Instant} {method : String} {k : ℕ} (small : k < 2 ^ 53) {i : ℤ} (same : k = i)
    (called : callMethod (.date t) method [] = some (.ok (.number (Float.ofNat k)))) : Gives t method i := by
  subst same
  exact ⟨_, called, hasValue_withSign_ofNat small false⟩

/-- A date is made of two or more whole parts. Months beyond the year, days beyond the month and times beyond the day
are carried over, in both directions; a date out of range is a range error, and a day is found again in its parts. -/
theorem makeDate_parts (whole : List.Forall₂ IsInteger args ns) (several : 2 ≤ ns.length) (given : .ofList ns = p)
    (fits : p.Fits) :
    (∀ v, makeDate args = .ok v → ∃ t, v = .date t ∧ t.millis = p.total ∧ Gives t "getTime" p.total) ∧
    (p.InRange → ∃ t, makeDate args = .ok (.date t)) ∧
    (¬p.InRange → ∃ e, makeDate args = .error e ∧ e.kind = .range) ∧
    (p.IsDay → firstYear ≤ p.fullYear → p.fullYear ≤ lastYear → ∃ t, makeDate args = .ok (.date t) ∧
      Gives t "getFullYear" p.fullYear ∧ Gives t "getMonth" p.month ∧ Gives t "getDate" p.day) := by
  have made := (makeDate_eq whole several).trans (dateOfParts_eq whole several given fits)
  refine ⟨fun v returned => ?_, fun inside => ⟨_, made.trans (if_pos inside)⟩,
    fun outside => ⟨_, made.trans (if_neg outside), rfl⟩, fun isDay first last => ?_⟩
  · by_cases inside : p.InRange
    · rw [if_pos inside] at made
      obtain rfl := Except.ok.inj (returned.symm.trans made)
      have valid := dateOfParts_isValid ((makeDate_eq whole several).symm.trans made)
      have small := valid.natAbs_millis_lt
      have same := millis_instant p
      refine ⟨_, rfl, same, ofInt p.instant.millis, rfl, ?_⟩
      rw [same] at small ⊢
      exact hasValue_ofInt small
    · rw [if_neg inside] at made
      cases returned.symm.trans made
  · obtain ⟨inside, date⟩ := isDay.date first last
    obtain ⟨⟨month_nonneg, month_le⟩, ⟨day_pos, day_le⟩, -⟩ := isDay
    have short := Date.daysInMonth_le p.fullYear (p.month.toNat + 1)
    have least : firstYear = -262143 := rfl
    have greatest : lastYear = 262142 := rfl
    refine ⟨_, made.trans (if_pos inside), ⟨ofInt p.instant.date.year, rfl, ?_⟩, gives_ofNat ?_ ?_ rfl,
      gives_ofNat ?_ ?_ rfl⟩
    all_goals
      rw [date]
      dsimp only
    · exact hasValue_ofInt (by omega)
    all_goals omega

/-- The day before the first of the fourteenth month of 1999, an hour before midnight. -/
theorem makeDate_parts_carried :
    ∃ t, makeDate [.number 99.0, .number 13.0, .number 0.0, .number (-1.0)] = .ok (.date t) ∧
      t.millis = 949273200000 := by
  have whole : List.Forall₂ IsInteger [.number 99.0, .number 13.0, .number 0.0, .number (-1.0)] [99, 13, 0, -1] := by
    refine .cons (hasValue_literal 99 (by decide)) (.cons (hasValue_literal 13 (by decide))
      (.cons (hasValue_literal 0 (by decide)) (.cons ?_ .nil)))
    have opposite := (hasValue_literal 1 (by decide)).neg
    rwa [← Int.cast_neg] at opposite
  have fits : (DateParts.ofList [99, 13, 0, -1]).Fits :=
    ⟨by decide +kernel, fun _ _ => by decide +kernel⟩
  obtain ⟨returned, succeeds, -⟩ := makeDate_parts whole (by decide) rfl fits
  obtain ⟨t, made⟩ := succeeds (by decide +kernel)
  obtain ⟨_, same, millis, -⟩ := returned _ made
  cases same
  exact ⟨t, made, millis⟩

end Parts

end Reckoner.Value
