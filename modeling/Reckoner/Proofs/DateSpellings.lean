import Reckoner.Proofs.DateFields

namespace Reckoner

namespace Calendar

open Text Text.Reader Number

section Spelling

namespace Date

/-- Four digits of the year, two of the month and two of the day, with a mark between them. -/
def marked (mark : Char) (d : Date) : List Char :=
  (Instant.padded 4 d.year.toNat).toList ++ mark ::
    ((Instant.padded 2 d.month).toList ++ mark :: (Instant.padded 2 d.day).toList)

/-- The month, the day and the year with strokes between them. -/
def monthFirst (d : Date) : List Char :=
  (Instant.padded 2 d.month).toList ++ '/' ::
    ((Instant.padded 2 d.day).toList ++ '/' :: (Instant.padded 4 d.year.toNat).toList)

/-- The first instant of a date. -/
def midnight (d : Date) : Instant := ⟨d.toDays * 86400, 0⟩

/-- The date exists and its year has up to four digits. -/
structure IsShort (d : Date) : Prop where
  civil : d.IsCivil
  first : 0 ≤ d.year
  last : d.year ≤ 9999

namespace IsShort

variable {d : Date} (short : d.IsShort)

include short

theorem cast_year : (d.year.toNat : ℤ) = d.year := Int.toNat_of_nonneg short.first

theorem year_lt : d.year.toNat < 10 ^ 4 := by
  have := short.last
  omega

theorem month_lt : d.month < 10 ^ 2 := short.civil.2.1.trans_lt (by decide)

theorem day_lt : d.day < 10 ^ 2 := (short.civil.2.2.2.trans (daysInMonth_le ..)).trans_lt (by decide)

theorem isValid : d.IsValid := by
  have least : firstYear = -262143 := rfl
  have greatest : lastYear = 262142 := rfl
  have first := short.first
  have last := short.last
  exact ⟨by omega, by omega, short.civil⟩

end IsShort

end Date

/-- A time of day to the minute, or to the second and digits of a fraction behind it. -/
structure TimeOfDay where
  hour : ℕ
  minute : ℕ
  second : Option (ℕ × List Char)

namespace TimeOfDay

/-- What stands behind the minutes. -/
def behindMinutes : Option (ℕ × List Char) → List Char
  | none => []
  | some (second, digits) => ':' :: ((Instant.padded 2 second).toList ++ pointed digits)

def text (time : TimeOfDay) : List Char :=
  (Instant.padded 2 time.hour).toList ++ ':' ::
    ((Instant.padded 2 time.minute).toList ++ behindMinutes time.second)

/-- The seconds and the digits of the fraction, zero and none if they are missing. -/
def seconds (time : TimeOfDay) : ℕ × List Char := time.second.getD (0, [])

/-- The time with its seconds. -/
def full (time : TimeOfDay) : TimeOfDay := { time with second := some time.seconds }

/-- Second 60 is a leap second. -/
structure IsValid (time : TimeOfDay) : Prop where
  hour : time.hour < 24
  minute : time.minute < 60
  second : time.seconds.1 ≤ 60
  digits : ∀ c ∈ time.seconds.2, c.isDigit = true

/-- The instant of a time of a day. -/
def on (time : TimeOfDay) (d : Date) : Instant where
  seconds := d.toDays * 86400 + (time.hour * 3600 + time.minute * 60 + min time.seconds.1 59 : ℕ)
  nanos := if time.seconds.1 = 60 then 1000000000 + nanosOf time.seconds.2 else nanosOf time.seconds.2

end TimeOfDay

end Spelling

section Dates

variable {d : Date} (short : d.IsShort)

theorem instant?_on {time : TimeOfDay} (valid : d.IsValid) (timely : time.IsValid) :
    (Moment.mk d time.hour time.minute time.seconds.1 (nanosOf time.seconds.2)).instant? 0 = some (time.on d) := by
  obtain ⟨hour, minute, second, -⟩ := timely
  obtain ⟨first, last⟩ := (Date.isValid_iff valid.2.2).1 valid
  unfold Moment.instant?
  dsimp only
  rw [if_pos ⟨valid, hour, minute, second⟩, Instant.inRange?_eq_some_iff, sub_zero]
  have days : (time.on d).days = d.toDays := by
    unfold Instant.days TimeOfDay.on
    dsimp only
    omega
  refine ⟨rfl, ?_⟩
  change firstDay ≤ (time.on d).days ∧ (time.on d).days ≤ lastDay
  rw [days]
  exact ⟨first, last⟩

theorem instant?_midnight (valid : d.IsValid) : (Moment.mk d 0 0 0 0).instant? 0 = some d.midnight := by
  have timely : TimeOfDay.IsValid ⟨0, 0, none⟩ := ⟨by decide, by decide, by decide, nofun⟩
  have start : TimeOfDay.on ⟨0, 0, none⟩ d = d.midnight := by
    rw [TimeOfDay.on, Date.midnight]
    exact congrArg (Instant.mk · 0) (add_zero _)
  rw [← start]
  exact instant?_on valid timely

/-- What `dashedDate` and `slashedDate` are by definition, for their own marks. -/
def markedDate (mark : Char) : Reader Date := do
  let year ← year
  char mark
  let month ← field 2
  char mark
  let day ← field 2
  pure ⟨year, month, day⟩

section

include short

theorem markedDate_marked (mark : Char) (rest : List Char) :
    markedDate mark (d.marked mark ++ rest) = some (d, rest) := by
  rw [Date.marked, List.append_assoc, List.cons_append, List.append_assoc, List.cons_append]
  refine (bind_of_some (year_padded _ short.year_lt)).trans ((bind_of_some (char_cons ..)).trans ?_)
  refine (bind_of_some (field_padded _ short.month_lt)).trans ((bind_of_some (char_cons ..)).trans ?_)
  refine (bind_of_some (field_padded _ short.day_lt)).trans ?_
  rw [short.cast_year]
  rfl

/-- Another mark is not passed. -/
theorem markedDate_other {mark mark' : Char} (other : mark' ≠ mark) (rest : List Char) :
    markedDate mark (d.marked mark' ++ rest) = none := by
  rw [Date.marked, List.append_assoc, List.cons_append]
  exact (bind_of_some (year_padded _ short.year_lt)).trans (bind_of_none (char_eq_none (by simpa using other)))

theorem monthFirstDate_monthFirst : monthFirstDate d.monthFirst = some (d, []) := by
  have year := year_padded [] short.year_lt
  rw [List.append_nil] at year
  rw [Date.monthFirst]
  refine (bind_of_some (field_padded _ short.month_lt)).trans ((bind_of_some (char_cons ..)).trans ?_)
  refine (bind_of_some (field_padded _ short.day_lt)).trans ((bind_of_some (char_cons ..)).trans ?_)
  refine (bind_of_some year).trans ?_
  rw [short.cast_year]
  rfl

/-- Behind two digits of the year there is no stroke. -/
theorem monthFirstDate_marked (mark : Char) (rest : List Char) : monthFirstDate (d.marked mark ++ rest) = none := by
  rw [Date.marked, List.append_assoc]
  obtain ⟨m, c, e, digit, taken⟩ := field_padded_four (mark :: _ ++ rest) short.year_lt
  refine (bind_of_some taken).trans (bind_of_none (char_eq_none ?_))
  rintro _ ⟨⟩ rfl
  cases digit

theorem dashedDate_monthFirst : dashedDate d.monthFirst = none := by
  rw [Date.monthFirst]
  refine (bind_of_some (year_padded_two _ short.month_lt ?_)).trans (bind_of_none (char_eq_none ?_))
  · rintro _ ⟨⟩
    rfl
  · rintro _ ⟨⟩
    decide

/-- Of the year behind the month and the day two digits are left. -/
theorem slashedDate_monthFirst : ∃ other c rest, slashedDate d.monthFirst = some (other, c :: rest) := by
  obtain ⟨m, c, e, -, taken⟩ := field_padded_four [] short.year_lt
  rw [List.append_nil] at taken
  refine ⟨⟨d.month, d.day, m⟩, c, [e], ?_⟩
  rw [Date.monthFirst]
  refine (bind_of_some (year_padded_two _ short.month_lt ?_)).trans ((bind_of_some (char_cons ..)).trans ?_)
  · rintro _ ⟨⟩
    rfl
  refine (bind_of_some (field_padded _ short.day_lt)).trans ((bind_of_some (char_cons ..)).trans ?_)
  exact (bind_of_some taken).trans rfl

end

end Dates

section Texts

variable {d : Date} {time : TimeOfDay} {text rest : List Char}

/-- A text whose last character is not blank. -/
def EndsSolid (text : List Char) : Prop := ∃ front c, text = front ++ [c] ∧ isBlank c = false

theorem EndsSolid.append (behind : EndsSolid rest) (front : List Char) : EndsSolid (front ++ rest) := by
  obtain ⟨middle, c, rfl, solid⟩ := behind
  exact ⟨front ++ middle, c, (List.append_assoc ..).symm, solid⟩

theorem EndsSolid.cons (behind : EndsSolid rest) (c : Char) : EndsSolid (c :: rest) := behind.append [c]

theorem EndsSolid.of_digits (digits : ∀ c ∈ text, c.isDigit = true) (nonempty : text ≠ []) : EndsSolid text :=
  ⟨text.dropLast, text.getLast nonempty, (List.dropLast_append_getLast nonempty).symm,
    isBlank_of_isDigit (digits _ (List.getLast_mem nonempty))⟩

theorem trim_of_ends {c : Char} (digit : c.isDigit = true) (behind : EndsSolid (c :: rest)) :
    trim (c :: rest) = c :: rest := by
  obtain ⟨front, e, spelled, solid⟩ := behind
  rw [trim, trimStart_digit digit, spelled, trimEnd, List.reverse_append, List.reverse_singleton, List.singleton_append,
    List.dropWhile_cons, solid, if_neg Bool.false_ne_true, List.reverse_cons, List.reverse_reverse]

theorem endsSolid_padded {width n : ℕ} (pos : 0 < width) (small : n < 10 ^ width) :
    EndsSolid (Instant.padded width n).toList :=
  .of_digits (fun _ => isDigit_of_mem_padded) (padded_ne_nil pos small)

theorem endsSolid_marked (short : d.IsShort) (mark : Char) : EndsSolid (d.marked mark) :=
  (((endsSolid_padded (by decide) short.day_lt).cons mark).append _ |>.cons mark).append _

theorem endsSolid_monthFirst (short : d.IsShort) : EndsSolid d.monthFirst :=
  (((endsSolid_padded (by decide) short.year_lt).cons '/').append _ |>.cons '/').append _

theorem TimeOfDay.IsValid.endsSolid (timely : time.IsValid) : EndsSolid time.text := by
  obtain ⟨-, minute, second, digits⟩ := timely
  refine (EndsSolid.cons ?_ ':').append _
  unfold TimeOfDay.seconds at second digits
  cases seconds : time.second with
  | none =>
    rw [TimeOfDay.behindMinutes, List.append_nil]
    exact endsSolid_padded (by decide) (by omega)
  | some given =>
    obtain ⟨s, run⟩ := given
    rw [seconds] at second digits
    refine (EndsSolid.cons ?_ ':').append _
    cases run with
    | nil =>
      rw [pointed, List.append_nil]
      exact endsSolid_padded (by decide) (second.trans_lt (by decide))
    | cons c run => exact ((EndsSolid.of_digits digits (List.cons_ne_nil _ _)).cons '.').append _

/-- The day name in front of a mail date, if there is one. -/
def dayName? : Reader (Option ℕ) := fun text => match nameIndex dayNames text with
  | some (index, rest) => some (some index, rest)
  | none => some (none, text)

/-- Digits in front are neither a day name nor a day of the month in front of a blank. -/
theorem mailFormat_digits {a b c : Char} (digit : a.isDigit = true) (digit' : b.isDigit = true)
    (solid : isBlank c = false) : mailFormat (a :: b :: c :: rest) = none := by
  have lower : a.toLower = a := by
    have last := (toNat_of_isDigit digit).2
    refine dif_neg fun upper => ?_
    have first : 65 ≤ a.toNat := UInt32.le_iff_toNat_le.1 upper.1
    omega
  have heads : ∀ name ∈ dayNames, name.toList.head?.any Char.isDigit = false := by decide
  have unnamed : dayNames.findIdx? (· == String.ofList (((a :: b :: c :: rest).take 3).map Char.toLower)) = none := by
    refine List.findIdx?_eq_none_iff.2 fun name member => beq_eq_false_iff_ne.2 fun same => ?_
    have head := heads name member
    rw [same, String.toList_ofList, List.take_succ_cons, List.map_cons, lower, List.head?_cons, Option.any_some,
      digit] at head
    cases head
  have front : blanks (a :: b :: c :: rest) = some ((), a :: b :: c :: rest) := by rw [blanks, trimStart_digit digit]
  have day : number 1 (some 2) ([a, b] ++ c :: rest) = some (ofDecimalDigits [a, b], c :: rest) :=
    number_of_run (by simp [digit, digit']) (by simp) (by simp) (.inl rfl)
  have behind : space (c :: rest) = none :=
    bind_of_none (discard_eq_none (by rw [satisfy, if_neg (by rw [solid]; exact Bool.false_ne_true)]))
  have nameless : dayName? (a :: b :: c :: rest) = some (none, a :: b :: c :: rest) := by
    rw [dayName?, nameIndex, unnamed, Option.map_none]
  refine (bind_of_some front).trans ((bind_of_some nameless).trans ?_)
  exact (bind_of_some front).trans ((bind_of_some day).trans (bind_of_none behind))

theorem number_short {least most : ℕ} {run : List Char} (digits : ∀ c ∈ run, c.isDigit = true)
    (few : run.length < least) (stop : ∀ c ∈ rest.head?, c.isDigit = false) :
    number least (some most) (run ++ rest) = none := by
  unfold number
  dsimp only
  rw [takeWhile_digits digits stop]
  exact if_pos ((List.length_take_le' ..).trans_lt few)

theorem exists_marked (short : d.IsShort) (mark : Char) : ∃ a b c more, d.marked mark = a :: b :: c :: more ∧
    a.isDigit = true ∧ b.isDigit = true ∧ c.isDigit = true := by
  have length : (Instant.padded 4 d.year.toNat).toList.length = 4 := length_padded (by decide) short.year_lt
  have digits : ∀ c ∈ (Instant.padded 4 d.year.toNat).toList, c.isDigit = true := fun _ => isDigit_of_mem_padded
  rw [Date.marked]
  obtain ⟨a, b, c, e, four⟩ := List.length_eq_four.1 length
  rw [four] at digits ⊢
  exact ⟨a, b, c, _, rfl, digits a (by simp), digits b (by simp), digits c (by simp)⟩

theorem exists_monthFirst (short : d.IsShort) : ∃ a b more, d.monthFirst = a :: b :: '/' :: more ∧
    a.isDigit = true ∧ b.isDigit = true := by
  have length : (Instant.padded 2 d.month).toList.length = 2 := length_padded (by decide) short.month_lt
  have digits : ∀ c ∈ (Instant.padded 2 d.month).toList, c.isDigit = true := fun _ => isDigit_of_mem_padded
  rw [Date.monthFirst]
  obtain ⟨a, b, two⟩ := List.length_eq_two.1 length
  rw [two] at digits ⊢
  exact ⟨a, b, _, rfl, digits a (by simp), digits b (by simp)⟩

theorem mailFormat_marked (short : d.IsShort) (mark : Char) (rest : List Char) :
    mailFormat (d.marked mark ++ rest) = none := by
  obtain ⟨a, b, c, more, spelled, digit, digit', digit''⟩ := exists_marked short mark
  rw [spelled]
  exact mailFormat_digits digit digit' (isBlank_of_isDigit digit'')

theorem mailFormat_monthFirst (short : d.IsShort) : mailFormat d.monthFirst = none := by
  obtain ⟨a, b, more, spelled, digit, digit'⟩ := exists_monthFirst short
  rw [spelled]
  exact mailFormat_digits digit digit' rfl

theorem trim_marked (short : d.IsShort) (mark : Char) (behind : EndsSolid (d.marked mark ++ rest)) :
    trim (d.marked mark ++ rest) = d.marked mark ++ rest := by
  obtain ⟨a, b, c, more, spelled, digit, -, -⟩ := exists_marked short mark
  rw [spelled] at behind ⊢
  exact trim_of_ends digit behind

theorem trim_monthFirst (short : d.IsShort) : trim d.monthFirst = d.monthFirst := by
  have behind := endsSolid_monthFirst short
  obtain ⟨a, b, more, spelled, digit, -⟩ := exists_monthFirst short
  rw [spelled] at behind ⊢
  exact trim_of_ends digit behind

theorem internetFormat_monthFirst (short : d.IsShort) : internetFormat d.monthFirst = none := by
  have length : (Instant.padded 2 d.month).toList.length = 2 := length_padded (by decide) short.month_lt
  refine bind_of_none (number_short (fun _ => isDigit_of_mem_padded) (by omega) ?_)
  rintro _ ⟨⟩
  rfl

theorem internetFormat_slashed (short : d.IsShort) (rest : List Char) :
    internetFormat (d.marked '/' ++ rest) = none := by
  rw [Date.marked, List.append_assoc]
  refine (bind_of_some (number_padded (by decide) short.year_lt _)).trans (bind_of_none (char_eq_none ?_))
  rintro _ ⟨⟩
  decide

/-- The zone, and the instant that it makes of a moment. -/
def zoned (m : Moment) : Reader (Option Instant) := do
  let east ← match ← peek? with
    | some 'Z' => char 'Z'; pure 0
    | some 'z' => char 'z'; pure 0
    | _ => offset (char ':') true
  check (east.natAbs < 86400)
  pure (m.instant? east)

/-- A separator and a time of day with a zone behind it. -/
def zonedTime (d : Date) : Reader (Option Instant) := do
  discard (satisfy fun c => c == 'T' || c == 't' || c == ' ')
  let hour ← number 2 (some 2)
  char ':'
  let minute ← number 2 (some 2)
  char ':'
  let second ← number 2 (some 2)
  let nanos ← fraction
  zoned ⟨d, hour, minute, second, nanos⟩

theorem internetFormat_dashed (short : d.IsShort) (rest : List Char) :
    internetFormat (d.marked '-' ++ rest) = zonedTime d rest := by
  have date : (⟨(d.year.toNat : ℤ), d.month, d.day⟩ : Date) = d := by rw [short.cast_year]
  rw [Date.marked, List.append_assoc, List.cons_append, List.append_assoc, List.cons_append, ← date]
  refine (bind_of_some (number_padded (by decide) short.year_lt _)).trans ((bind_of_some (char_cons ..)).trans ?_)
  refine (bind_of_some (number_padded (by decide) short.month_lt _)).trans ((bind_of_some (char_cons ..)).trans ?_)
  exact (bind_of_some (number_padded (by decide) short.day_lt _)).trans rfl

variable {separator : Char}

theorem zonedTime_full (timely : time.IsValid) (separates : separator ∈ ['T', ' '])
    (stop : ∀ c ∈ rest.head?, c.isDigit = false ∧ c ≠ '.') : zonedTime d (separator :: (time.full.text ++ rest)) =
      zoned ⟨d, time.hour, time.minute, time.seconds.1, nanosOf time.seconds.2⟩ rest := by
  obtain ⟨hour, minute, second, digits⟩ := timely
  have separated : discard (satisfy fun c => c == 'T' || c == 't' || c == ' ') (separator :: (time.full.text ++ rest)) =
      some ((), time.full.text ++ rest) := by
    refine discard_eq_some (satisfy_cons ?_ _)
    rcases List.mem_pair.1 separates with rfl | rfl <;> rfl
  refine (bind_of_some separated).trans ?_
  rw [TimeOfDay.text, TimeOfDay.full, TimeOfDay.behindMinutes]
  simp only [List.append_assoc, List.cons_append]
  refine (bind_of_some (number_padded (by decide) (by omega) _)).trans ((bind_of_some (char_cons ..)).trans ?_)
  refine (bind_of_some (number_padded (by decide) (by omega) _)).trans ((bind_of_some (char_cons ..)).trans ?_)
  refine (bind_of_some (number_padded (by decide) (second.trans_lt (by decide)) _)).trans ?_
  exact bind_of_some (fraction_pointed digits stop)

theorem full_eq (given : time.second ≠ none) : time.full = time := by
  obtain ⟨seconds, same⟩ := Option.ne_none_iff_exists'.1 given
  rw [TimeOfDay.full, TimeOfDay.seconds, same, Option.getD_some, ← same]

/-- Without a zone no time of day is read. -/
theorem zonedTime_text (timely : time.IsValid) (separates : separator ∈ ['T', ' ']) :
    zonedTime d (separator :: time.text) = none := by
  by_cases given : time.second = none
  · have separated : discard (satisfy fun c => c == 'T' || c == 't' || c == ' ') (separator :: time.text) =
        some ((), time.text) := by
      refine discard_eq_some (satisfy_cons ?_ _)
      rcases List.mem_pair.1 separates with rfl | rfl <;> rfl
    obtain ⟨hour, minute, -, -⟩ := timely
    refine (bind_of_some separated).trans ?_
    rw [TimeOfDay.text, given]
    refine (bind_of_some (number_padded (by decide) (by omega) _)).trans ((bind_of_some (char_cons ..)).trans ?_)
    exact (bind_of_some (number_padded (by decide) (by omega) _)).trans (bind_of_none (char_eq_none nofun))
  · have secondless : zonedTime d (separator :: (time.full.text ++ [])) = zoned _ [] :=
      zonedTime_full timely separates nofun
    rw [full_eq given, List.append_nil] at secondless
    rw [secondless]
    exact (bind_of_some (u := none) rfl).trans (bind_of_none rfl)

end Texts

end Calendar

end Reckoner
