import Reckoner.Proofs.DateText
import Reckoner.Value.Document

namespace Reckoner

namespace Text.Reader

variable {α β : Type} {z : Char}

/-- Whatever a reader takes, it takes no character `z`. -/
def Spares (z : Char) (reader : Reader α) : Prop := ∀ text a rest, reader text = some (a, rest) → z ∈ text → z ∈ rest

theorem spares_pure (a : α) : Spares z (pure a : Reader α) := by
  intro text b rest read member
  cases read
  exact member

theorem Spares.bind {first : Reader α} {next : α → Reader β} (before : Spares z first)
    (after : ∀ a, Spares z (next a)) :
    Spares z (first >>= next) := by
  intro text b rest read member
  obtain ⟨a, middle, start, behind⟩ := bind_eq_some.1 read
  exact after a _ _ _ behind (before _ _ _ start member)

theorem Spares.discard {reader : Reader α} (spares : Spares z reader) : Spares z (discard reader) := by
  intro text u rest read member
  obtain ⟨⟨a, _⟩, taken, same⟩ := Option.bind_eq_some_iff.1 read
  cases same
  exact spares _ _ _ taken member

theorem spares_satisfy {p : Char → Bool} (other : p z = false) : Spares z (satisfy p) := by
  intro text c rest read member
  cases text with
  | nil => cases member
  | cons d text =>
    obtain ⟨holds, same⟩ : p d = true ∧ some (d, text) = some (c, rest) := by simpa [satisfy] using read
    cases same
    rcases List.mem_cons.1 member with rfl | member
    · rw [other] at holds
      cases holds
    · exact member

theorem spares_char {c : Char} (other : z ≠ c) : Spares z (char c) :=
  (spares_satisfy (p := (· == c)) (beq_eq_false_iff_ne.2 other)).discard

theorem spares_peek? : Spares z peek? := by
  intro text a rest read member
  cases read
  exact member

/-- A run of characters of a class without `z` is passed over. -/
theorem mem_drop {p : Char → Bool} (other : p z = false) {text : List Char} {n : ℕ} (le : n ≤ (text.takeWhile p).length)
    (member : z ∈ text) : z ∈ text.drop n := by
  rw [← List.take_append_drop n text, List.mem_append] at member
  refine member.resolve_left fun taken => ?_
  have run : text.take n = (text.takeWhile p).take n := by
    conv_lhs => rw [← List.takeWhile_append_dropWhile (p := p) (l := text), List.take_append_of_le_length le]
  rw [run] at taken
  rw [List.mem_takeWhile_imp (List.mem_of_mem_take taken)] at other
  cases other

/-- A reader that takes no `z` does not read a text with one to its end. -/
theorem Spares.readAll?_eq_none {reader : Reader α} (spares : Spares z reader) {text : List Char} (member : z ∈ text) :
    reader.readAll? text = none := by
  refine Option.eq_none_iff_forall_ne_some.2 fun a read => ?_
  cases spares _ _ _ (readAll?_eq_some.1 read) member

end Text.Reader

namespace Calendar

open Text Text.Reader Number

section Spares

variable {z : Char} (digit : z.isDigit = false) (blank : isBlank z = false)

include digit in
theorem spares_number (least : ℕ) (most : Option ℕ) : Spares z (number least most) := by
  intro text n rest read member
  have run : ∀ taken : List Char, taken.length ≤ (text.takeWhile Char.isDigit).length →
      (if taken.length < least then none else some (Number.ofDecimalDigits taken, text.drop taken.length)) =
        some (n, rest) → z ∈ rest := by
    intro taken short read
    split at read
    · cases read
    · cases read
      exact mem_drop digit short member
  cases most with
  | none => exact run _ le_rfl read
  | some most => exact run _ (List.length_take_le' ..) read

include blank in
theorem spares_blanks : Spares z blanks := by
  intro text u rest read member
  cases read
  rw [← List.takeWhile_append_dropWhile (p := isBlank) (l := text), List.mem_append] at member
  refine member.resolve_left fun taken => ?_
  rw [List.mem_takeWhile_imp taken] at blank
  cases blank

theorem spares_runLength : Spares z runLength := by
  intro text n rest read member
  cases read
  exact member

include digit in
theorem spares_fraction (point : z ≠ '.') : Spares z fraction := by
  refine spares_peek?.bind fun c => ?_
  split
  · exact (spares_char point).bind fun _ => spares_runLength.bind fun _ => (spares_number digit _ _).bind fun _ =>
      (spares_number digit _ _).discard.bind fun _ => spares_pure _
  · exact spares_pure _

include digit blank in
theorem spares_field (width : ℕ) : Spares z (field width) :=
  (spares_blanks blank).bind fun _ => spares_number digit _ _

include digit blank in
theorem spares_year (minus : z ≠ '-') (plus : z ≠ '+') : Spares z year := by
  refine (spares_blanks blank).bind fun _ => spares_peek?.bind fun c => ?_
  split
  · exact (spares_char minus).bind fun _ => (spares_number digit _ _).bind fun _ => spares_pure _
  · exact (spares_char plus).bind fun _ => (spares_number digit _ _).bind fun _ => spares_pure _
  · exact (spares_number digit _ _).bind fun _ => spares_pure _

include digit blank in
theorem spares_dashedDate (minus : z ≠ '-') (plus : z ≠ '+') : Spares z dashedDate :=
  (spares_year digit blank minus plus).bind fun _ => (spares_char minus).bind fun _ =>
    (spares_field digit blank _).bind fun _ => (spares_char minus).bind fun _ =>
    (spares_field digit blank _).bind fun _ => spares_pure _

include digit blank in
theorem spares_clock (colon : z ≠ ':') : Spares z clock :=
  (spares_field digit blank _).bind fun _ => (spares_char colon).bind fun _ =>
    (spares_field digit blank _).bind fun _ => spares_pure _

end Spares

section Zone

variable {separator : Reader Unit}

theorem spares_zone_secondsFormat (between : Spares 'Z' separator) : Spares 'Z' (secondsFormat separator) :=
  (spares_dashedDate rfl rfl (by decide) (by decide)).bind fun _ => between.bind fun _ =>
    (spares_clock rfl rfl (by decide)).bind fun _ => (spares_char (by decide)).bind fun _ =>
    (spares_field rfl rfl _).bind fun _ => (spares_fraction rfl (by decide)).bind fun _ => spares_pure _

theorem spares_zone_minutesFormat (between : Spares 'Z' separator) : Spares 'Z' (minutesFormat separator) :=
  (spares_dashedDate rfl rfl (by decide) (by decide)).bind fun _ => between.bind fun _ =>
    (spares_clock rfl rfl (by decide)).bind fun _ => spares_pure _

theorem spares_zone_dateFormat {date : Reader Date} (spares : Spares 'Z' date) : Spares 'Z' (dateFormat date) :=
  spares.bind fun _ => spares_pure _

theorem spares_zone_slashedDate : Spares 'Z' slashedDate :=
  (spares_year rfl rfl (by decide) (by decide)).bind fun _ => (spares_char (by decide)).bind fun _ =>
    (spares_field rfl rfl _).bind fun _ => (spares_char (by decide)).bind fun _ =>
    (spares_field rfl rfl _).bind fun _ => spares_pure _

theorem spares_zone_monthFirstDate : Spares 'Z' monthFirstDate :=
  (spares_field rfl rfl _).bind fun _ => (spares_char (by decide)).bind fun _ =>
    (spares_field rfl rfl _).bind fun _ => (spares_char (by decide)).bind fun _ =>
    (spares_year rfl rfl (by decide) (by decide)).bind fun _ => spares_pure _

variable {sign : Char} (signed : sign = '+' ∨ sign = '-') (rest : List Char)

include signed

theorem number_sign {least : ℕ} (pos : 0 < least) (most : Option ℕ) : number least most (sign :: rest) = none := by
  have run : (sign :: rest).takeWhile Char.isDigit = [] := by rcases signed with rfl | rfl <;> rfl
  unfold number
  rw [run]
  cases most with
  | none => exact if_pos pos
  | some most => exact if_pos (by simpa using pos)

theorem trimStart_sign : trimStart (sign :: rest) = sign :: rest := by rcases signed with rfl | rfl <;> rfl

theorem nameIndex_sign : nameIndex dayNames (sign :: rest) = none := by
  have lower : sign.toLower = sign := by rcases signed with rfl | rfl <;> rfl
  have heads : ∀ name ∈ dayNames, name.toList.head? ≠ some sign := by
    rcases signed with rfl | rfl <;> decide
  have unnamed : dayNames.findIdx? (· == String.ofList (((sign :: rest).take 3).map Char.toLower)) = none := by
    refine List.findIdx?_eq_none_iff.2 fun name member => beq_eq_false_iff_ne.2 fun same => heads name member ?_
    rw [same, String.toList_ofList, List.take_succ_cons, List.map_cons, lower, List.head?_cons]
  rw [nameIndex, unnamed, Option.map_none]

theorem internetFormat_sign : internetFormat (sign :: rest) = none := by
  refine Option.eq_none_iff_forall_ne_some.2 fun result read => ?_
  obtain ⟨_, _, year, -⟩ := bind_eq_some.1 read
  rw [number_sign signed rest (by decide)] at year
  cases year

theorem mailFormat_sign : mailFormat (sign :: rest) = none := by
  refine Option.eq_none_iff_forall_ne_some.2 fun result read => ?_
  obtain ⟨_, _, start, read⟩ := bind_eq_some.1 read
  cases start
  rw [trimStart_sign signed] at read
  obtain ⟨dayName, _, named, read⟩ := bind_eq_some.1 read
  rw [nameIndex_sign signed] at named
  cases named
  obtain ⟨_, _, start, read⟩ := bind_eq_some.1 read
  cases start
  obtain ⟨_, _, day, -⟩ := bind_eq_some.1 read
  rw [trimStart_sign signed, number_sign signed rest (by decide)] at day
  cases day

/-- No text in the zone `Z` that begins with a sign is read as a date: the formats of RFC 3339 and RFC 2822 stop at the
sign, and all others leave the `Z`. -/
theorem read?_signed {s : String} (spelled : s.toList = sign :: rest) (solid : ∀ c ∈ s.toList, isBlank c = false)
    (zone : 'Z' ∈ s.toList) : read? s = none := by
  rw [read?, trim_eq_self solid]
  refine List.findSome?_eq_none_iff.2 fun format member => ?_
  have nothing : format.readAll? s.toList = none := by
    simp only [formats, List.mem_cons, List.not_mem_nil, or_false] at member
    rcases member with rfl | rfl | rfl | rfl | rfl | rfl | rfl | rfl | rfl
    · rw [readAll?, spelled, internetFormat_sign signed]
    · rw [readAll?, spelled, mailFormat_sign signed]
    · exact (spares_zone_secondsFormat (spares_char (by decide))).readAll?_eq_none zone
    · exact (spares_zone_minutesFormat (spares_char (by decide))).readAll?_eq_none zone
    · exact (spares_zone_secondsFormat (spares_blanks rfl)).readAll?_eq_none zone
    · exact (spares_zone_minutesFormat (spares_blanks rfl)).readAll?_eq_none zone
    · exact (spares_zone_dateFormat (spares_dashedDate rfl rfl (by decide) (by decide))).readAll?_eq_none zone
    · exact (spares_zone_dateFormat spares_zone_slashedDate).readAll?_eq_none zone
    · exact (spares_zone_dateFormat spares_zone_monthFirstDate).readAll?_eq_none zone
  rw [nothing]
  rfl

end Zone

namespace Instant

variable {t : Instant}

/-- Dates of years that carry a sign are not read back. -/
theorem read?_text_signed (outside : ¬(0 ≤ t.date.year ∧ t.date.year ≤ 9999)) : read? t.text = none := by
  have signed : ∃ sign, (sign = '+' ∨ sign = '-') ∧
      (yearText t.date.year).toList = sign :: (padded 4 t.date.year.natAbs).toList := by
    rw [yearText, if_neg outside, String.toList_append]
    split
    · exact ⟨'-', .inr rfl, rfl⟩
    · exact ⟨'+', .inl rfl, rfl⟩
  obtain ⟨sign, signed, year⟩ := signed
  refine read?_signed signed _ (by rw [toList_text, year]; rfl) isBlank_of_mem_text ?_
  rw [toList_text, textBehindYear]
  simp

/-- Every whole number of milliseconds whose day is in range is the time value of an instant without further digits. -/
theorem exists_ofTimeValue? {ms : ℤ} (first : firstDay ≤ ms / 86400000) (last : ms / 86400000 ≤ lastDay) :
    ∃ t, ofTimeValue? (Number.ofInt ms) = some t ∧ t.millis = ms ∧ t.truncated = t := by
  have least : firstDay = -96465292 := by decide
  have greatest : lastDay = 95026236 := by decide
  have small : ms.natAbs < 2 ^ 53 := by omega
  refine ⟨⟨ms / 1000, (ms % 1000).toNat * 1000000⟩, ?_, ?_, ?_⟩
  · rw [ofTimeValue?, Number.toInt?_ofInt small]
    refine inRange?_eq_some_iff.2 ⟨rfl, ?_, ?_⟩
    · change firstDay ≤ ms / 1000 / 86400
      omega
    · change ms / 1000 / 86400 ≤ lastDay
      omega
  · change ms / 1000 * 1000 + (((ms % 1000).toNat * 1000000 / 1000000 : ℕ) : ℤ) = ms
    omega
  · rw [truncated]
    dsimp only
    rw [Nat.mul_div_cancel _ (by decide)]

end Instant

end Calendar

namespace Value

open Calendar

variable {v : Value} {t : Instant}

theorem coerce_date (stands : v.toInstant? = some t) : ResultType.date.coerce v = .date t := by
  rw [ResultType.coerce, stands]

/-- The document of a date is its text, which is read back as far as it goes, or stays a text if the year carries a
sign. -/
theorem coerce_document (valid : t.IsValid) : ResultType.date.coerce (ofJson (toJson (.date t))) =
    if 0 ≤ t.date.year ∧ t.date.year ≤ 9999 then .date t.truncated else .string t.text := by
  have document : ofJson (toJson (.date t)) = .string t.text := by rw [toJson, ofJson]
  rw [document]
  split
  · rename_i inside
    exact coerce_date (valid.read?_text inside.1 inside.2)
  · rename_i outside
    rw [ResultType.coerce, toInstant?, Instant.read?_text_signed outside]

/-- Dates survive being printed: the text of a date in the years from 0 to 9999 is read as the date without the digits
below the millisecond, leap seconds included; every whole number of milliseconds in range is the time value of a date
without such digits; and the document of a date stays the same when it is brought to a date again. This is so of all
dates that a text is read as and all that `new Date` makes, since these are valid. -/
theorem date_roundTrip :
    (∀ t : Instant, t.IsValid → 0 ≤ t.date.year → t.date.year ≤ 9999 → read? t.text = some t.truncated) ∧
    (∀ ms : ℤ, firstDay ≤ ms / 86400000 → ms / 86400000 ≤ lastDay →
      ∃ t, Instant.ofTimeValue? (Number.ofInt ms) = some t ∧ t.millis = ms ∧ t.truncated = t) ∧
    (∀ v t, (∀ u, v = .date u → u.IsValid) → v.toInstant? = some t →
      let again := ResultType.date.coerce (ofJson (ResultType.date.coerce v).toJson)
      again.toJson = (ResultType.date.coerce v).toJson ∧
        (0 ≤ t.date.year → t.date.year ≤ 9999 → again = .date t.truncated)) ∧
    (∀ s t, read? s = some t → t.IsValid) ∧
    ∀ args t, (∀ u, .date u ∈ args → u.IsValid) → makeDate args = .ok (.date t) → t.IsValid := by
  refine ⟨fun t valid => valid.read?_text, fun ms first last => Instant.exists_ofTimeValue? first last, ?_,
    fun _ _ => read?_isValid, fun _ _ => makeDate_isValid⟩
  intro v t own stands again
  have same : again = if 0 ≤ t.date.year ∧ t.date.year ≤ 9999 then .date t.truncated else .string t.text := by
    rw [← coerce_document (toInstant?_isValid own stands), ← coerce_date stands]
  constructor
  · rw [same, coerce_date stands, toJson]
    split
    · rw [toJson, Instant.text_truncated]
    · rw [toJson]
  · intro first last
    rw [same, if_pos ⟨first, last⟩]

/-- The leap second at the end of 1969, half a second of it gone, and the millisecond before 1970. -/
theorem date_roundTrip_leapSecond :
    let t : Instant := ⟨-1, 1500000000⟩
    let again := ResultType.date.coerce (ofJson (ResultType.date.coerce (.date t)).toJson)
    t.IsValid ∧ read? t.text = some t ∧ again = .date t ∧
      ∃ u, Instant.ofTimeValue? (Number.ofInt (-1)) = some u ∧ u.millis = -1 := by
  intro t again
  have valid : t.IsValid := ⟨by decide, by decide, by decide, by decide⟩
  have first : 0 ≤ t.date.year := by decide
  have last : t.date.year ≤ 9999 := by decide
  have same : t.truncated = t := by decide
  obtain ⟨read, whole, stable, -⟩ := date_roundTrip
  obtain ⟨u, made, value, -⟩ := whole (-1) (by decide) (by decide)
  have own : ∀ u, Value.date t = .date u → u.IsValid := by
    rintro u equal
    rw [← Value.date.inj equal]
    exact valid
  have back := read t valid first last
  have again_eq := (stable (.date t) t own rfl).2 first last
  rw [same] at back again_eq
  exact ⟨valid, back, again_eq, u, made, value⟩

end Value

end Reckoner
