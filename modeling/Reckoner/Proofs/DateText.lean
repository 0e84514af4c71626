import Reckoner.Configuration.Basic
import Reckoner.Coercion
import Reckoner.Proofs.LiteralText
import Reckoner.Proofs.ValidInstants

namespace Reckoner

namespace Calendar

open Text Text.Reader Number

section Padding

variable {width n : ℕ}

theorem toList_padded (width n : ℕ) : (Instant.padded width n).toList =
    List.replicate (width - (decimalDigits n).length) '0' ++ decimalDigits n := by
  rw [Instant.padded]
  exact String.toList_ofList

theorem isDigit_of_mem_padded {c : Char} (member : c ∈ (Instant.padded width n).toList) : c.isDigit = true := by
  rw [toList_padded, List.mem_append] at member
  rcases member with zero | digit
  · rw [List.eq_of_mem_replicate zero]
    rfl
  · exact isDigit_of_mem_decimalDigits digit

theorem ofDecimalDigits_padded (width n : ℕ) : ofDecimalDigits (Instant.padded width n).toList = n := by
  rw [ofDecimalDigits_eq fun _ => isDigit_of_mem_padded, toList_padded, Nat.ofDigitChars_append,
    Nat.ofDigitChars_replicate_zero, Nat.mul_zero]
  exact Nat.ofDigitChars_ten_toDigits

theorem length_padded (pos : 0 < width) (small : n < 10 ^ width) : (Instant.padded width n).toList.length = width := by
  have short : (decimalDigits n).length ≤ width := (Nat.length_toDigits_le_iff (by decide) pos).2 small
  rw [toList_padded, List.length_append, List.length_replicate]
  omega

/-- A number is read back from its padded digits, also in front of other digits. -/
theorem number_padded (pos : 0 < width) (small : n < 10 ^ width) (rest : List Char) :
    number width (some width) ((Instant.padded width n).toList ++ rest) = some (n, rest) := by
  have length := length_padded pos small
  have run : (((Instant.padded width n).toList ++ rest).takeWhile Char.isDigit).take width =
      (Instant.padded width n).toList := by
    rw [List.takeWhile_append_of_pos fun _ => isDigit_of_mem_padded]
    exact List.take_left' length
  unfold number
  dsimp only
  rw [run, length, if_neg (Nat.lt_irrefl _), ofDecimalDigits_padded, List.drop_left' length]

end Padding

section Print

variable {t : Instant}

namespace Instant

/-- Without the digits below the millisecond. -/
def truncated (t : Instant) : Instant := ⟨t.seconds, t.nanos / 1000000 * 1000000⟩

/-- What of a text stands behind the year. -/
def textBehindYear (t : Instant) : List Char :=
  '-' :: ((padded 2 t.date.month).toList ++ '-' :: ((padded 2 t.date.day).toList ++ 'T' ::
    ((padded 2 (t.secondOfDay / 3600)).toList ++ ':' :: ((padded 2 (t.secondOfDay / 60 % 60)).toList ++ ':' ::
      ((padded 2 (t.secondOfDay % 60 + t.nanos / 1000000000)).toList ++ '.' ::
        ((padded 3 (t.nanos % 1000000000 / 1000000)).toList ++ ['Z']))))))

theorem toList_text (t : Instant) : t.text.toList = (yearText t.date.year).toList ++ t.textBehindYear := by
  have minus : "-".toList = ['-'] := rfl
  have time : "T".toList = ['T'] := rfl
  have colon : ":".toList = [':'] := rfl
  have point : ".".toList = ['.'] := rfl
  have zone : "Z".toList = ['Z'] := rfl
  simp only [text, textBehindYear, String.toList_append, List.append_assoc, minus, time, colon, point, zone,
    List.cons_append, List.nil_append]

theorem text_truncated (t : Instant) : t.truncated.text = t.text := by
  have leap : t.nanos / 1000000 * 1000000 / 1000000000 = t.nanos / 1000000000 := by omega
  have digits : t.nanos / 1000000 * 1000000 % 1000000000 / 1000000 = t.nanos % 1000000000 / 1000000 := by omega
  unfold text
  dsimp only [truncated]
  rw [leap, digits]
  rfl

end Instant

end Print

section Read

variable {text rest : List Char}

/-- Milliseconds are read back in front of the mark of universal time. -/
theorem fraction_padded {n : ℕ} (small : n < 1000) (rest : List Char) :
    fraction ('.' :: ((Instant.padded 3 n).toList ++ 'Z' :: rest)) = some (n * 1000000, 'Z' :: rest) := by
  have length : (Instant.padded 3 n).toList.length = 3 := length_padded (by decide) small
  have run : ((Instant.padded 3 n).toList ++ 'Z' :: rest).takeWhile Char.isDigit = (Instant.padded 3 n).toList := by
    rw [List.takeWhile_append_of_pos fun _ => isDigit_of_mem_padded]
    exact List.append_nil _
  have value : number 1 (some 9) ((Instant.padded 3 n).toList ++ 'Z' :: rest) = some (n, 'Z' :: rest) := by
    unfold number
    dsimp only
    rw [run, List.take_of_length_le (by omega), length, if_neg (by decide), ofDecimalDigits_padded,
      List.drop_left' length]
  have nothing : discard (number 0 none) ('Z' :: rest) = some ((), 'Z' :: rest) := discard_eq_some (u := 0) rfl
  refine bind_eq_some.2 ⟨some '.', _, rfl, bind_eq_some.2 ⟨(), _, char_cons .., ?_⟩⟩
  refine bind_eq_some.2 ⟨3, _, by rw [runLength, run, length], ?_⟩
  exact bind_eq_some.2 ⟨n, _, value, bind_eq_some.2 ⟨(), _, nothing, rfl⟩⟩

/-- The internet date format is read back field by field. -/
theorem internetFormat_fields {year month day hour minute second milli : ℕ} (year_lt : year < 10 ^ 4)
    (month_lt : month < 10 ^ 2) (day_lt : day < 10 ^ 2) (hour_lt : hour < 10 ^ 2) (minute_lt : minute < 10 ^ 2)
    (second_lt : second < 10 ^ 2) (milli_lt : milli < 1000) :
    internetFormat ((Instant.padded 4 year).toList ++ '-' :: ((Instant.padded 2 month).toList ++ '-' ::
      ((Instant.padded 2 day).toList ++ 'T' :: ((Instant.padded 2 hour).toList ++ ':' ::
      ((Instant.padded 2 minute).toList ++ ':' :: ((Instant.padded 2 second).toList ++ '.' ::
      ((Instant.padded 3 milli).toList ++ ['Z']))))))) =
    some ((Moment.mk ⟨year, month, day⟩ hour minute second (milli * 1000000)).instant? 0, []) := by
  refine bind_eq_some.2 ⟨year, _, number_padded (by decide) year_lt _, ?_⟩
  refine bind_eq_some.2 ⟨(), _, char_cons .., ?_⟩
  refine bind_eq_some.2 ⟨month, _, number_padded (by decide) month_lt _, ?_⟩
  refine bind_eq_some.2 ⟨(), _, char_cons .., ?_⟩
  refine bind_eq_some.2 ⟨day, _, number_padded (by decide) day_lt _, ?_⟩
  refine bind_eq_some.2 ⟨(), _, discard_eq_some (satisfy_cons (by decide) _), ?_⟩
  refine bind_eq_some.2 ⟨hour, _, number_padded (by decide) hour_lt _, ?_⟩
  refine bind_eq_some.2 ⟨(), _, char_cons .., ?_⟩
  refine bind_eq_some.2 ⟨minute, _, number_padded (by decide) minute_lt _, ?_⟩
  refine bind_eq_some.2 ⟨(), _, char_cons .., ?_⟩
  refine bind_eq_some.2 ⟨second, _, number_padded (by decide) second_lt _, ?_⟩
  refine bind_eq_some.2 ⟨_, _, fraction_padded milli_lt [], ?_⟩
  refine bind_eq_some.2 ⟨some 'Z', _, rfl, ?_⟩
  exact bind_eq_some.2 ⟨(), _, char_cons .., rfl⟩

end Read

namespace Instant

variable {t : Instant}

theorem toDays_date (t : Instant) : t.date.toDays = t.days := Date.toDays_ofDays _

theorem IsValid.date_isValid (valid : t.IsValid) : t.date.IsValid := by
  refine (Date.isValid_iff (Date.isCivil_ofDays _)).2 ?_
  rw [Date.toDays_ofDays]
  exact ⟨valid.first, valid.last⟩

/-- The day and the time of day make up the instant again. In a leap second the seconds of the time of day are taken
back from 60 to 59, and the second that is left goes to the nanoseconds. -/
theorem IsValid.instant?_fields (valid : t.IsValid) :
    (Moment.mk t.date (t.secondOfDay / 3600) (t.secondOfDay / 60 % 60) (t.secondOfDay % 60 + t.nanos / 1000000000)
      (t.nanos % 1000000000 / 1000000 * 1000000)).instant? 0 = some t.truncated := by
  have second : (t.secondOfDay : ℤ) = t.seconds % 86400 := Int.toNat_of_nonneg (by omega)
  have days : t.days = t.seconds / 86400 := rfl
  have nanos_lt := valid.nanos_lt
  have leap := valid.leap
  unfold Moment.instant?
  dsimp only
  rw [if_pos ⟨valid.date_isValid, by omega, by omega, by omega⟩, inRange?_eq_some_iff, toDays_date]
  have whole : t.days * 86400 + ((t.secondOfDay / 3600 * 3600 + t.secondOfDay / 60 % 60 * 60 +
      min (t.secondOfDay % 60 + t.nanos / 1000000000) 59 : ℕ) : ℤ) - 0 = t.seconds := by omega
  have fraction : (if t.secondOfDay % 60 + t.nanos / 1000000000 = 60 then
      1000000000 + t.nanos % 1000000000 / 1000000 * 1000000 else t.nanos % 1000000000 / 1000000 * 1000000) =
      t.nanos / 1000000 * 1000000 := by
    split <;> omega
  rw [whole, fraction]
  exact ⟨rfl, valid.first, valid.last⟩

/-- Texts of dates consist of digits and marks. -/
theorem isBlank_of_mem_text : ∀ c ∈ t.text.toList, isBlank c = false := by
  have digits (width n : ℕ) : ∀ c ∈ (padded width n).toList, isBlank c = false := fun c member =>
    isBlank_of_isDigit (isDigit_of_mem_padded member)
  have year : ∀ c ∈ (yearText t.date.year).toList, isBlank c = false := by
    unfold yearText
    split
    · exact digits _ _
    · rw [String.toList_append, List.forall_mem_append]
      refine ⟨?_, digits _ _⟩
      split <;> exact List.forall_mem_singleton.2 rfl
  rw [toList_text, textBehindYear]
  simp only [List.forall_mem_append, List.forall_mem_cons]
  exact ⟨year, rfl, digits _ _, rfl, digits _ _, rfl, digits _ _, rfl, digits _ _, rfl, digits _ _, rfl,
    digits _ _, rfl, List.forall_mem_nil _⟩

theorem IsValid.internetFormat_text (valid : t.IsValid) (first : 0 ≤ t.date.year) (last : t.date.year ≤ 9999) :
    internetFormat t.text.toList = some (some t.truncated, []) := by
  obtain ⟨year, same⟩ := Int.eq_ofNat_of_zero_le first
  obtain ⟨-, -, month_pos, month_le, day_pos, day_le⟩ := valid.date_isValid
  have month_lt : t.date.month < 10 ^ 2 := month_le.trans_lt (by decide)
  have day_lt : t.date.day < 10 ^ 2 := (day_le.trans (Date.daysInMonth_le ..)).trans_lt (by decide)
  have second : t.secondOfDay < 86400 := by
    unfold secondOfDay
    omega
  have nanos_lt := valid.nanos_lt
  have digits : (yearText t.date.year).toList = (padded 4 year).toList := by
    rw [yearText, if_pos ⟨first, last⟩, same, Int.toNat_natCast]
  have date : t.date = ⟨year, t.date.month, t.date.day⟩ := by rw [← same]
  rw [toList_text, digits, ← valid.instant?_fields, textBehindYear, date]
  exact internetFormat_fields (by omega) month_lt day_lt (by omega) (by omega) (by omega) (by omega)

/-- Years from 0 to 9999 have four digits, and dates in them are read back. -/
theorem IsValid.read?_text (valid : t.IsValid) (first : 0 ≤ t.date.year) (last : t.date.year ≤ 9999) :
    read? t.text = some t.truncated := by
  have whole : internetFormat.readAll? t.text.toList = some (some t.truncated) :=
    readAll?_eq_some.2 (valid.internetFormat_text first last)
  rw [read?, trim_eq_self isBlank_of_mem_text, formats, List.findSome?_cons, whole]
  rfl

end Instant

end Calendar

end Reckoner
