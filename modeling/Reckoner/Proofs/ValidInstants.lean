import Reckoner.Library.Dates
import Reckoner.Proofs.CivilCalendar
import Reckoner.Proofs.NumberOrder
import Reckoner.Proofs.Readers

namespace Reckoner

namespace Text.Reader

variable {α β : Type}

/-- Whatever a reader reads has a property. -/
def Yields (P : α → Prop) (reader : Reader α) : Prop := ∀ text a rest, reader text = some (a, rest) → P a

namespace Yields

variable {P : α → Prop} {Q : β → Prop}

theorem pure {a : α} (holds : P a) : Yields P (Pure.pure a : Reader α) := by
  intro text b rest read
  cases read
  exact holds

theorem bind {first : Reader α} {next : α → Reader β} (before : Yields P first) (after : ∀ a, P a → Yields Q (next a)) :
    Yields Q (first >>= next) := by
  intro text b rest read
  obtain ⟨a, middle, start, behind⟩ := bind_eq_some.1 read
  exact after a (before _ _ _ start) _ _ _ behind

/-- What does not count for the property is passed over. -/
theorem behind (first : Reader α) {next : α → Reader β} (after : ∀ a, Yields Q (next a)) : Yields Q (first >>= next) :=
  bind (P := fun _ => True) (fun _ _ _ _ => trivial) fun a _ => after a

end Yields

end Text.Reader

namespace Calendar

open Text Text.Reader

namespace Instant

/-- The instants that a calendar of the years in range has. A leap second is the last one of its minute. -/
structure IsValid (t : Instant) : Prop where
  first : firstDay ≤ t.days
  last : t.days ≤ lastDay
  nanos_lt : t.nanos < 2000000000
  leap : 1000000000 ≤ t.nanos → t.seconds % 60 = 59

variable {t u : Instant}

theorem inRange?_eq_some_iff : inRange? t = some u ↔ t = u ∧ firstDay ≤ t.days ∧ t.days ≤ lastDay := by
  unfold inRange?
  split
  · simp [*]
  · simp [*]

/-- The milliseconds of instants are numbers exactly. -/
theorem IsValid.natAbs_millis_lt (valid : t.IsValid) : t.millis.natAbs < 2 ^ 53 := by
  have first : firstDay = -96465292 := by decide
  have last : lastDay = 95026236 := by decide
  obtain ⟨low, high, nanos_lt, -⟩ := valid
  rw [first] at low
  rw [last] at high
  unfold days millis at *
  omega

theorem ofMillis?_isValid {ms : ℤ} (made : ofMillis? ms = some t) : t.IsValid := by
  obtain ⟨rfl, first, last⟩ := inRange?_eq_some_iff.1 made
  refine ⟨first, last, ?_, fun leap => ?_⟩
  · dsimp only
    omega
  · dsimp only at leap
    omega

theorem ofTimeValue?_isValid {x : Float} (made : ofTimeValue? x = some t) : t.IsValid := by
  obtain ⟨ms, -, made⟩ := Option.bind_eq_some_iff.1 made
  exact ofMillis?_isValid made

end Instant

section Reading

/-- A moment with a fraction of a second, at an offset of whole minutes, is a valid instant. -/
theorem Moment.instant?_isValid {m : Moment} {east : ℤ} (fraction : m.nanos < 1000000000) (minutes : 60 ∣ east)
    {t : Instant} (made : m.instant? east = some t) : t.IsValid := by
  unfold Moment.instant? at made
  split at made
  · rename_i checked
    obtain ⟨-, hour, minute, second⟩ := checked
    obtain ⟨rfl, first, last⟩ := Instant.inRange?_eq_some_iff.1 made
    refine ⟨first, last, ?_, ?_⟩
    · dsimp only
      split <;> omega
    · dsimp only
      intro leap
      split at leap <;> omega
  · cases made

theorem ofDecimalDigits_lt {text : List Char} (digits : ∀ c ∈ text, c.isDigit = true) :
    Number.ofDecimalDigits text < 10 ^ text.length := by
  rw [Number.ofDecimalDigits_eq digits]
  simpa using Number.ofDigitChars_lt digits 0

/-- A number of limited width is below a power of ten, of which the digits taken are the exponent. -/
theorem number_lt {least most n : ℕ} {text rest : List Char} (read : number least (some most) text = some (n, rest)) :
    n < 10 ^ min most (text.takeWhile Char.isDigit).length := by
  unfold number at read
  dsimp only at read
  split at read
  · cases read
  · cases read
    rw [← List.length_take]
    exact ofDecimalDigits_lt fun c taken => List.mem_takeWhile_imp (List.mem_of_mem_take taken)

theorem yields_nanoseconds : Yields (· < 1000000000) nanoseconds := by
  intro text nanos rest read
  obtain ⟨digits, _, length, read⟩ := bind_eq_some.1 read
  cases length
  obtain ⟨value, _, taken, read⟩ := bind_eq_some.1 read
  obtain ⟨_, _, -, made⟩ := bind_eq_some.1 read
  cases made
  have small := number_lt taken
  calc value * Number.tenTo (9 - min 9 (text.takeWhile Char.isDigit).length)
      < 10 ^ min 9 (text.takeWhile Char.isDigit).length * 10 ^ (9 - min 9 (text.takeWhile Char.isDigit).length) :=
        Nat.mul_lt_mul_of_pos_right small (Nat.pow_pos (by decide))
    _ = 10 ^ 9 := by rw [← pow_add]; congr 1; omega

theorem yields_fraction : Yields (· < 1000000000) fraction := by
  refine .behind _ fun c => ?_
  split
  · exact .behind _ fun _ => yields_nanoseconds
  · exact .pure (by decide)

theorem yields_offset (between : Reader Unit) (mathMinus : Bool) : Yields (60 ∣ ·) (offset between mathMinus) := by
  refine .behind _ fun sign => .behind _ fun hours => .behind _ fun _ => .behind _ fun minutes => .behind _ fun _ =>
    .pure ?_
  split <;> omega

theorem yields_mailZone : Yields (60 ∣ ·) mailZone := by
  intro text east rest read
  unfold mailZone at read
  dsimp only at read
  split at read
  · exact yields_offset _ _ _ _ _ read
  · obtain ⟨hours, -, same⟩ := Option.map_eq_some_iff.1 read
    cases same
    omega

/-- Every instant that a format gives is valid. -/
def Sound (format : Reader (Option Instant)) : Prop := Yields (fun made => ∀ t, made = some t → t.IsValid) format

theorem sound_internetFormat : Sound internetFormat := by
  refine .behind _ fun year => .behind _ fun _ => .behind _ fun month => .behind _ fun _ => .behind _ fun day =>
    .behind _ fun _ => .behind _ fun hour => .behind _ fun _ => .behind _ fun minute => .behind _ fun _ =>
    .behind _ fun second => .bind yields_fraction fun nanos nanos_lt => .behind _ fun zone => ?_
  have made (east : ℤ) (minutes : 60 ∣ east) : Sound (do
      check (east.natAbs < 86400)
      pure ((Moment.mk ⟨year, month, day⟩ hour minute second nanos).instant? east)) :=
    .behind _ fun _ => .pure fun _ => Moment.instant?_isValid nanos_lt minutes
  dsimp only
  split
  · exact .behind _ fun _ => .bind (.pure (dvd_zero _)) made
  · exact .behind _ fun _ => .bind (.pure (dvd_zero _)) made
  · exact .bind (yields_offset _ _) made

/-- The form of RFC 2822 gives valid instants. The same is read behind the comma of a day name and without one. -/
theorem sound_mailFormat : Sound mailFormat := by
  refine .behind _ fun _ => .behind _ fun dayName => ?_
  dsimp only
  split
  on_goal 1 => refine .behind _ fun _ => ?_
  all_goals
    exact .behind _ fun _ => .behind _ fun day => .behind _ fun _ => .behind _ fun month => .behind _ fun _ =>
      .behind _ fun length => .behind _ fun year => .behind _ fun _ => .behind _ fun hour => .behind _ fun _ =>
      .behind _ fun _ => .behind _ fun _ => .behind _ fun minute => .behind _ fun second => .behind _ fun _ =>
      .bind yields_mailZone fun east minutes => .behind _ fun _ => .behind _ fun _ => .behind _ fun _ =>
      .pure fun _ => Moment.instant?_isValid (by decide : 0 < 1000000000) minutes

theorem sound_secondsFormat (separator : Reader Unit) : Sound (secondsFormat separator) :=
  .behind _ fun _ => .behind _ fun _ => .behind _ fun _ => .behind _ fun _ => .behind _ fun _ =>
    .bind yields_fraction fun _ nanos_lt => .pure fun _ => Moment.instant?_isValid nanos_lt (dvd_zero _)

theorem sound_minutesFormat (separator : Reader Unit) : Sound (minutesFormat separator) :=
  .behind _ fun _ => .behind _ fun _ => .behind _ fun _ =>
    .pure fun _ => Moment.instant?_isValid (by decide : 0 < 1000000000) (dvd_zero _)

theorem sound_dateFormat (date : Reader Date) : Sound (dateFormat date) :=
  .behind _ fun _ => .pure fun _ => Moment.instant?_isValid (by decide : 0 < 1000000000) (dvd_zero _)

/-- Every instant that is read is valid. -/
theorem read?_isValid {s : String} {t : Instant} (read : read? s = some t) : t.IsValid := by
  obtain ⟨format, member, read⟩ := List.exists_of_findSome?_eq_some read
  have sound : Sound format := by
    simp only [formats, List.mem_cons, List.not_mem_nil, or_false] at member
    rcases member with rfl | rfl | rfl | rfl | rfl | rfl | rfl | rfl | rfl
    · exact sound_internetFormat
    · exact sound_mailFormat
    · exact sound_secondsFormat _
    · exact sound_minutesFormat _
    · exact sound_secondsFormat _
    · exact sound_minutesFormat _
    · exact sound_dateFormat _
    · exact sound_dateFormat _
    · exact sound_dateFormat _
  exact sound _ _ _ (readAll?_eq_some.1 (Option.join_eq_some_iff.1 read)) t rfl

end Reading

end Calendar

namespace Value

open Calendar

/-- A value that is no date itself stands for a valid instant, if for any. -/
theorem toInstant?_isValid {v : Value} {t : Instant} (own : ∀ u, v = .date u → u.IsValid)
    (stands : v.toInstant? = some t) : t.IsValid := by
  cases v with
  | date =>
    cases stands
    exact own _ rfl
  | null | bool | number => exact Instant.ofTimeValue?_isValid stands
  | string | array | object => exact read?_isValid stands
  | undefined | function | library => cases stands

theorem dateOfParts_isValid {parts : List Float} {t : Instant} (made : dateOfParts parts = .ok (.date t)) :
    t.IsValid := by
  unfold dateOfParts at made
  dsimp only at made
  split at made
  · cases made
  split at made
  · split at made
    · cases made
    split at made
    · rename_i stands
      cases made
      exact Instant.ofTimeValue?_isValid stands
    · cases made
  · cases made

/-- The dates that `new Date` makes are valid. -/
theorem makeDate_isValid {args : List Value} {t : Instant} (own : ∀ u, .date u ∈ args → u.IsValid)
    (made : makeDate args = .ok (.date t)) : t.IsValid := by
  unfold makeDate at made
  split at made
  · cases made
  · rename_i v
    split at made
    · rename_i stands
      cases made
      exact toInstant?_isValid (fun u same => own u (List.mem_singleton.2 same.symm)) stands
    · cases made
  · exact dateOfParts_isValid made

end Value

end Reckoner
