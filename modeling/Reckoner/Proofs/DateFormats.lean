import Reckoner.Proofs.DateParts
import Reckoner.Proofs.DateSpellings

namespace Reckoner

namespace Calendar

open Text Text.Reader Number

variable {d : Date} {time : TimeOfDay} {t : Instant} {text rest : List Char} {separator : Char}

/-- What a format reads from the whole text, if anything, is one instant. -/
def Agrees (t : Instant) (text : List Char) (format : Reader (Option Instant)) : Prop :=
  ∀ u, (format.readAll? text).join = some u → u = t

section

variable {format : Reader (Option Instant)}

theorem Agrees.of_none (refused : format text = none) : Agrees t text format := by
  intro u read
  rw [readAll?, refused] at read
  cases read

theorem Agrees.of_rest {made : Option Instant} {c : Char} (left : format text = some (made, c :: rest)) :
    Agrees t text format := by
  intro u read
  rw [readAll?, left] at read
  cases read

theorem Agrees.of_some (made : format text = some (some t, [])) : Agrees t text format := by
  intro u read
  rw [readAll?, made] at read
  cases read
  rfl

end

/-- A text is read as an instant, and no format reads another one from it. -/
def Spells (text : List Char) (t : Instant) : Prop :=
  read? (String.ofList text) = some t ∧ ∀ format ∈ formats, Agrees t text format

theorem spells_of_format {format : Reader (Option Instant)} (trimmed : trim text = text) (member : format ∈ formats)
    (made : format text = some (some t, [])) (agrees : ∀ format ∈ formats, Agrees t text format) : Spells text t := by
  refine ⟨?_, agrees⟩
  rw [read?, String.toList_ofList, trimmed]
  cases found : formats.findSome? fun format => (format.readAll? text).join with
  | none =>
    have nothing := List.findSome?_eq_none_iff.1 found format member
    rw [readAll?, made] at nothing
    cases nothing
  | some u =>
    obtain ⟨other, member, read⟩ := List.exists_of_findSome?_eq_some found
    rw [agrees other member u read]

/-- Hours, minutes and seconds of a day. -/
def secondsBehind (d : Date) : Reader (Option Instant) := do
  let (hour, minute) ← clock
  char ':'
  let second ← field 2
  let nanos ← fraction
  pure ((Moment.mk d hour minute second nanos).instant? 0)

/-- Hours and minutes of a day. -/
def minutesBehind (d : Date) : Reader (Option Instant) := do
  let (hour, minute) ← clock
  pure ((Moment.mk d hour minute 0 0).instant? 0)

theorem clock_text (timely : time.IsValid) :
    clock time.text = some ((time.hour, time.minute), TimeOfDay.behindMinutes time.second) := by
  obtain ⟨hour, minute, -, -⟩ := timely
  refine (bind_of_some (field_padded _ (by omega))).trans ((bind_of_some (char_cons ..)).trans ?_)
  exact (bind_of_some (field_padded _ (by omega))).trans rfl

/-- The time of day is read to the minute if it has no seconds. -/
theorem minutesBehind_text (short : d.IsShort) (timely : time.IsValid) (missing : time.second = none) :
    minutesBehind d time.text = some (some (time.on d), []) ∧ secondsBehind d time.text = none := by
  have clock := clock_text timely
  have made := instant?_on short.isValid timely
  rw [missing] at clock
  rw [TimeOfDay.seconds, missing] at made
  constructor
  · refine (bind_of_some clock).trans ?_
    rw [← made]
    rfl
  · exact (bind_of_some clock).trans (bind_of_none rfl)

/-- With seconds it is read to the second, and they are left behind the minutes. -/
theorem secondsBehind_text (short : d.IsShort) (timely : time.IsValid) (given : time.second ≠ none) :
    secondsBehind d time.text = some (some (time.on d), []) ∧
      ∃ made c rest, minutesBehind d time.text = some (made, c :: rest) := by
  have clock := clock_text timely
  have made := instant?_on short.isValid timely
  obtain ⟨-, -, second, digits⟩ := timely
  have behind : TimeOfDay.behindMinutes time.second =
      ':' :: ((Instant.padded 2 time.seconds.1).toList ++ (pointed time.seconds.2 ++ [])) := by
    rw [← congrArg TimeOfDay.second (full_eq given), TimeOfDay.full, TimeOfDay.behindMinutes, List.append_nil]
  have fraction : fraction (pointed time.seconds.2 ++ []) = some (nanosOf time.seconds.2, []) :=
    fraction_pointed digits fun c head => by cases head
  rw [behind] at clock
  constructor
  · refine (bind_of_some clock).trans ((bind_of_some (char_cons ..)).trans ?_)
    refine (bind_of_some (field_padded _ (second.trans_lt (by decide)))).trans ?_
    refine (bind_of_some fraction).trans ?_
    rw [← made]
    rfl
  · exact ⟨_, ':', _, (bind_of_some clock).trans rfl⟩

theorem secondsFormat_dashed (short : d.IsShort) (between : Reader Unit) (rest : List Char) :
    secondsFormat between (d.marked '-' ++ rest) = (between >>= fun _ => secondsBehind d) rest :=
  bind_of_some (markedDate_marked short '-' rest)

theorem minutesFormat_dashed (short : d.IsShort) (between : Reader Unit) (rest : List Char) :
    minutesFormat between (d.marked '-' ++ rest) = (between >>= fun _ => minutesBehind d) rest :=
  bind_of_some (markedDate_marked short '-' rest)

section

variable {between : Reader Unit}

theorem agrees_time (short : d.IsShort) (timely : time.IsValid) (taken : between rest = some ((), time.text)) :
    Agrees (time.on d) (d.marked '-' ++ rest) (secondsFormat between) ∧
      Agrees (time.on d) (d.marked '-' ++ rest) (minutesFormat between) ∧
      ∃ format ∈ [secondsFormat between, minutesFormat between],
        format (d.marked '-' ++ rest) = some (some (time.on d), []) := by
  have seconds := (secondsFormat_dashed short between rest).trans (bind_of_some taken)
  have minutes := (minutesFormat_dashed short between rest).trans (bind_of_some taken)
  by_cases given : time.second = none
  · obtain ⟨read, refused⟩ := minutesBehind_text short timely given
    rw [read] at minutes
    rw [refused] at seconds
    exact ⟨.of_none seconds, .of_some minutes, _, List.mem_cons_of_mem _ List.mem_cons_self, minutes⟩
  · obtain ⟨read, made, c, more, left⟩ := secondsBehind_text short timely given
    rw [read] at seconds
    rw [left] at minutes
    exact ⟨.of_some seconds, .of_rest minutes, _, List.mem_cons_self, seconds⟩

/-- Behind what is taken between them there is no time of day. -/
theorem agrees_other (t : Instant) (short : d.IsShort) (between : Reader Unit) (rest : List Char)
    (other : between rest = none ∨ ∃ middle, between rest = some ((), middle) ∧ clock middle = none) :
    Agrees t (d.marked '-' ++ rest) (secondsFormat between) ∧
      Agrees t (d.marked '-' ++ rest) (minutesFormat between) := by
  have seconds := secondsFormat_dashed short between rest
  have minutes := minutesFormat_dashed short between rest
  rcases other with refused | ⟨middle, taken, refused⟩
  · exact ⟨.of_none (seconds.trans (bind_of_none refused)), .of_none (minutes.trans (bind_of_none refused))⟩
  · exact ⟨.of_none (seconds.trans ((bind_of_some taken).trans (bind_of_none refused))),
      .of_none (minutes.trans ((bind_of_some taken).trans (bind_of_none refused)))⟩

end

theorem dateFormat_of_some {date : Reader Date} (read : date text = some (d, rest)) :
    dateFormat date text = some ((Moment.mk d 0 0 0 0).instant? 0, rest) :=
  bind_of_some read

theorem dateFormat_of_none {date : Reader Date} (refused : date text = none) : dateFormat date text = none :=
  bind_of_none refused

theorem spells_dashed (short : d.IsShort) : Spells (d.marked '-') d.midnight := by
  have made : dateFormat dashedDate (d.marked '-') = some (some d.midnight, []) := by
    have read := markedDate_marked short '-' []
    rw [List.append_nil] at read
    rw [← instant?_midnight short.isValid]
    exact dateFormat_of_some read
  have trimmed : trim (d.marked '-' ++ []) = d.marked '-' ++ [] :=
    trim_marked short '-' (by simpa using endsSolid_marked short '-')
  have internet := internetFormat_dashed short []
  have mail := mailFormat_marked short '-' []
  have slashed : slashedDate (d.marked '-' ++ []) = none := markedDate_other short (by decide) []
  have first := monthFirstDate_marked short '-' []
  obtain ⟨seconds, minutes⟩ := agrees_other d.midnight short (char 'T') [] (.inl rfl)
  obtain ⟨seconds', minutes'⟩ := agrees_other d.midnight short blanks [] (.inr ⟨[], rfl, rfl⟩)
  rw [List.append_nil] at *
  refine spells_of_format trimmed (by simp [formats]) made ?_
  simp only [formats, List.forall_mem_cons]
  exact ⟨.of_none (internet.trans rfl), .of_none mail, seconds, minutes, seconds', minutes', .of_some made,
    .of_none (dateFormat_of_none slashed), .of_none (dateFormat_of_none first), List.forall_mem_nil _⟩

/-- Formats that begin with a dashed date refuse what does not. -/
theorem agrees_dashed (refused : dashedDate text = none) :
    Agrees t text (secondsFormat (char 'T')) ∧ Agrees t text (minutesFormat (char 'T')) ∧
      Agrees t text (secondsFormat blanks) ∧ Agrees t text (minutesFormat blanks) ∧
      Agrees t text (dateFormat dashedDate) :=
  ⟨.of_none (bind_of_none refused), .of_none (bind_of_none refused), .of_none (bind_of_none refused),
    .of_none (bind_of_none refused), .of_none (bind_of_none refused)⟩

theorem spells_slashed (short : d.IsShort) : Spells (d.marked '/') d.midnight := by
  have read := markedDate_marked short '/' []
  have trimmed : trim (d.marked '/' ++ []) = d.marked '/' ++ [] :=
    trim_marked short '/' (by simpa using endsSolid_marked short '/')
  have internet := internetFormat_slashed short []
  have mail := mailFormat_marked short '/' []
  have dashed : dashedDate (d.marked '/' ++ []) = none := markedDate_other short (by decide) []
  have first := monthFirstDate_marked short '/' []
  rw [List.append_nil] at *
  have made : dateFormat slashedDate (d.marked '/') = some (some d.midnight, []) := by
    rw [← instant?_midnight short.isValid]
    exact dateFormat_of_some read
  obtain ⟨seconds, minutes, seconds', minutes', date⟩ := agrees_dashed (t := d.midnight) dashed
  refine spells_of_format trimmed (by simp [formats]) made ?_
  simp only [formats, List.forall_mem_cons]
  exact ⟨.of_none internet, .of_none mail, seconds, minutes, seconds', minutes', date, .of_some made,
    .of_none (dateFormat_of_none first), List.forall_mem_nil _⟩

theorem spells_monthFirst (short : d.IsShort) : Spells d.monthFirst d.midnight := by
  have made : dateFormat monthFirstDate d.monthFirst = some (some d.midnight, []) := by
    rw [← instant?_midnight short.isValid]
    exact dateFormat_of_some (monthFirstDate_monthFirst short)
  obtain ⟨other, c, rest, left⟩ := slashedDate_monthFirst short
  obtain ⟨seconds, minutes, seconds', minutes', date⟩ := agrees_dashed (t := d.midnight) (dashedDate_monthFirst short)
  refine spells_of_format (trim_monthFirst short) (by simp [formats]) made ?_
  simp only [formats, List.forall_mem_cons]
  exact ⟨.of_none (internetFormat_monthFirst short), .of_none (mailFormat_monthFirst short), seconds, minutes, seconds',
    minutes', date, .of_rest (dateFormat_of_some left), .of_some made, List.forall_mem_nil _⟩

theorem exists_digit_text (timely : time.IsValid) : ∃ c rest, time.text = c :: rest ∧ c.isDigit = true := by
  have small : time.hour < 10 ^ 2 := timely.hour.trans (by decide)
  have digits : ∀ c ∈ (Instant.padded 2 time.hour).toList, c.isDigit = true := fun _ => isDigit_of_mem_padded
  rw [TimeOfDay.text]
  obtain ⟨c, rest, spelled⟩ := List.exists_cons_of_ne_nil (padded_ne_nil (by decide) small)
  rw [spelled] at digits ⊢
  exact ⟨c, _, rfl, digits c List.mem_cons_self⟩

/-- Of the two separators each is taken by its own formats. -/
theorem agrees_separated (short : d.IsShort) (timely : time.IsValid) (separates : separator ∈ ['T', ' ']) :
    (∀ between ∈ [char 'T', blanks],
      Agrees (time.on d) (d.marked '-' ++ separator :: time.text) (secondsFormat between) ∧
      Agrees (time.on d) (d.marked '-' ++ separator :: time.text) (minutesFormat between)) ∧
    ∃ format ∈ formats, format (d.marked '-' ++ separator :: time.text) = some (some (time.on d), []) := by
  simp only [List.forall_mem_cons]
  rcases List.mem_pair.1 separates with rfl | rfl
  · obtain ⟨seconds, minutes, format, member, made⟩ := agrees_time short timely (char_cons 'T' time.text)
    refine ⟨⟨⟨seconds, minutes⟩, agrees_other _ short _ _ (.inr ⟨'T' :: time.text, rfl, rfl⟩), List.forall_mem_nil _⟩,
      format, ?_, made⟩
    rcases List.mem_pair.1 member with rfl | rfl <;> simp [formats]
  · have blank : blanks (' ' :: time.text) = some ((), time.text) := by
      obtain ⟨c, rest, spelled, digit⟩ := exists_digit_text timely
      rw [spelled, blanks]
      exact congrArg (fun text => some ((), text)) (trimStart_digit digit)
    obtain ⟨seconds, minutes, format, member, made⟩ := agrees_time short timely blank
    refine ⟨⟨agrees_other _ short _ _ (.inl rfl), ⟨seconds, minutes⟩, List.forall_mem_nil _⟩, format, ?_, made⟩
    rcases List.mem_pair.1 member with rfl | rfl <;> simp [formats]

theorem spells_time (short : d.IsShort) (timely : time.IsValid) (separates : separator ∈ ['T', ' ']) :
    Spells (d.marked '-' ++ separator :: time.text) (time.on d) := by
  have trimmed := trim_marked short '-' ((timely.endsSolid.cons separator).append (d.marked '-'))
  have internet := (internetFormat_dashed short _).trans (zonedTime_text timely separates)
  obtain ⟨separated, format, member, made⟩ := agrees_separated short timely separates
  simp only [List.forall_mem_cons] at separated
  obtain ⟨⟨seconds, minutes⟩, ⟨seconds', minutes'⟩, -⟩ := separated
  refine spells_of_format trimmed member made ?_
  simp only [formats, List.forall_mem_cons]
  exact ⟨.of_none internet, .of_none (mailFormat_marked short '-' _), seconds, minutes, seconds', minutes',
    .of_rest (dateFormat_of_some (markedDate_marked short '-' _)),
    .of_none (dateFormat_of_none (markedDate_other short (by decide) _)),
    .of_none (dateFormat_of_none (monthFirstDate_marked short '-' _)), List.forall_mem_nil _⟩

/-- The internet date format in universal time. -/
theorem read?_zoned (short : d.IsShort) (timely : time.IsValid) :
    read? (String.ofList (d.marked '-' ++ 'T' :: (time.full.text ++ ['Z']))) = some (time.on d) := by
  have zone : EndsSolid ['Z'] := ⟨[], 'Z', rfl, rfl⟩
  have trimmed := trim_marked short '-' (((zone.append time.full.text).cons 'T').append (d.marked '-'))
  have made : internetFormat (d.marked '-' ++ 'T' :: (time.full.text ++ ['Z'])) = some (some (time.on d), []) := by
    rw [internetFormat_dashed short, zonedTime_full timely (by decide) (by simp), ← instant?_on short.isValid timely]
    rfl
  rw [read?, String.toList_ofList, trimmed, formats, List.findSome?_cons, readAll?, made]
  rfl

/-- From the year 100 on a date is made of its year, its month from zero and its day. -/
theorem makeDate_midnight (short : d.IsShort) (late : 99 < d.year) {a b c : Value} (year : a.IsInteger d.year)
    (month : b.IsInteger (d.month - 1)) (day : c.IsInteger d.day) :
    Value.makeDate [a, b, c] = .ok (.date d.midnight) := by
  obtain ⟨month_pos, month_le, day_pos, day_le⟩ := short.civil
  have last := short.last
  have least : firstYear = -262143 := rfl
  have greatest : lastYear = 262142 := rfl
  obtain ⟨p, given⟩ : ∃ p, Value.DateParts.ofList [d.year, (d.month : ℤ) - 1, d.day] = p := ⟨_, rfl⟩
  have parts : p = ⟨d.year, d.month - 1, d.day, 0, 0, 0, 0⟩ := given.symm
  have full : p.fullYear = d.year := by
    rw [Value.DateParts.fullYear, parts]
    exact if_neg (by dsimp only; omega)
  have place : p.month.toNat + 1 = d.month := by
    rw [parts]
    dsimp only
    omega
  have number : p.day.toNat = d.day := by rw [parts, Int.toNat_natCast]
  have isDay : p.IsDay := by
    refine ⟨?_, ?_, ?_⟩
    · rw [parts]
      dsimp only
      omega
    · rw [full, place, parts]
      dsimp only
      omega
    · rw [parts]
      exact ⟨rfl, rfl, rfl, rfl⟩
  have fits : p.Fits := by
    have begins := isDay.monthDate_eq
    rw [full, place] at begins
    have valid : p.monthDate.IsValid := by
      rw [begins]
      exact ⟨by dsimp only; omega, by dsimp only; omega, month_pos, month_le, le_rfl, day_pos.trans day_le⟩
    obtain ⟨low, high⟩ := (Date.isValid_iff valid.2.2).1 valid
    rw [show firstDay = -96465292 by decide] at low
    rw [show lastDay = 95026236 by decide] at high
    have few := Date.daysInMonth_le d.year d.month
    refine ⟨?_, fun _ _ => ?_⟩
    · rw [full, parts]
      dsimp only
      omega
    · simp only [Value.DateParts.steps, Value.DateParts.products, List.scanl_cons, List.scanl_nil, List.cons_append,
        List.nil_append, List.forall_mem_cons]
      generalize p.monthDate.toDays = days at *
      rw [parts]
      dsimp only
      refine ⟨?_, ?_, ?_, ?_, ?_, ?_, ?_, ?_, ?_, ?_, ?_, ?_, List.forall_mem_nil _⟩ <;> omega
  have whole : List.Forall₂ Value.IsInteger [a, b, c] [d.year, (d.month : ℤ) - 1, (d.day : ℤ)] :=
    .cons year (.cons month (.cons day .nil))
  have made := (Value.makeDate_eq whole (by simp)).trans (Value.dateOfParts_eq whole (by simp) given fits)
  obtain ⟨inside, -⟩ := isDay.date (by omega) (by omega)
  have start : p.instant = d.midnight := by
    rw [Value.DateParts.instant, isDay.total_eq, full, place, number]
    change Instant.mk (86400000 * d.toDays / 1000) ((86400000 * d.toDays % 1000).toNat * 1000000) =
      ⟨d.toDays * 86400, 0⟩
    congr 1 <;> omega
  rw [made, if_pos inside, start]

/-- Dates of years of four digits are read from their spellings, by themselves and in front of a time of day, and no
format takes the spelling of one instant for another one. The instant is the one of the internet date format, and the
beginning of a day the one that its year, month and day make. -/
theorem read?_spellings (short : d.IsShort) :
    (∀ text ∈ [d.marked '-', d.marked '/', d.monthFirst], Spells text d.midnight) ∧
    (∀ time : TimeOfDay, time.IsValid →
      (∀ separator ∈ ['T', ' '], Spells (d.marked '-' ++ separator :: time.text) (time.on d)) ∧
        read? (String.ofList (d.marked '-' ++ 'T' :: (time.full.text ++ ['Z']))) = some (time.on d)) ∧
    (99 < d.year → ∀ a b c : Value, a.IsInteger d.year → b.IsInteger (d.month - 1) → c.IsInteger d.day →
      Value.makeDate [a, b, c] = .ok (.date d.midnight)) := by
  refine ⟨?_, fun time timely => ⟨fun _ separates => spells_time short timely separates, read?_zoned short timely⟩,
    fun late a b c => makeDate_midnight short late⟩
  simp only [List.forall_mem_cons]
  exact ⟨spells_dashed short, spells_slashed short, spells_monthFirst short, List.forall_mem_nil _⟩

/-- Half a second after half past twelve on a leap day, and the day itself with the month in front. -/
theorem read?_spellings_leapDay : (Date.mk 2020 2 29).IsShort ∧
    read? "2020-02-29 12:30:00.5" = some ⟨1582979400, 500000000⟩ ∧
    read? "2020-02-29T12:30:00.5Z" = some ⟨1582979400, 500000000⟩ ∧ read? "02/29/2020" = some ⟨1582934400, 0⟩ := by
  have short : (Date.mk 2020 2 29).IsShort :=
    ⟨⟨by decide, by decide, by decide, by decide⟩, by decide, by decide⟩
  obtain ⟨days, times, -⟩ := read?_spellings short
  obtain ⟨separated, zoned⟩ := times ⟨12, 30, some (0, ['5'])⟩
    ⟨by decide, by decide, by decide, List.forall_mem_singleton.2 rfl⟩
  have spaced := (separated ' ' (by decide)).1
  have first := (days _ (.tail _ (.tail _ (.head _)))).1
  rw [show String.ofList _ = "2020-02-29 12:30:00.5" by decide +kernel] at spaced
  rw [show String.ofList _ = "2020-02-29T12:30:00.5Z" by decide +kernel] at zoned
  rw [show String.ofList _ = "02/29/2020" by decide +kernel] at first
  exact ⟨short, spaced, zoned, first⟩

end Calendar

end Reckoner
