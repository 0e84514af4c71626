import Reckoner.Proofs.DateText

namespace Reckoner

namespace Text.Reader

variable {α β : Type} {a : Reader α} {next : α → Reader β} {text rest : List Char} {u : α}

theorem bind_of_some (read : a text = some (u, rest)) : (a >>= next) text = next u rest := by
  change (a text).bind _ = _
  rw [read]
  rfl

theorem bind_of_none (refused : a text = none) : (a >>= next) text = none := by
  change (a text).bind _ = _
  rw [refused]
  rfl

theorem discard_eq_none (refused : a text = none) : discard a text = none := Option.bind_eq_none_iff.2 fun _ read => by
  rw [refused] at read
  cases read

theorem char_eq_none {c : Char} (other : ∀ d ∈ text.head?, d ≠ c) : char c text = none := by
  refine discard_eq_none ?_
  cases text with
  | nil => rfl
  | cons d rest => exact if_neg (by simpa using other d rfl)

end Text.Reader

namespace Calendar

open Text Text.Reader Number

variable {c : Char} {run text rest : List Char} {n width : ℕ}

theorem takeWhile_digits (digits : ∀ c ∈ run, c.isDigit = true) (stop : ∀ c ∈ rest.head?, c.isDigit = false) :
    (run ++ rest).takeWhile Char.isDigit = run :=
  (takeWhile_dropWhile_append digits stop).1

/-- As many digits as a number may have are taken, also in front of more of them. -/
theorem number_of_run {least most : ℕ} (digits : ∀ c ∈ run, c.isDigit = true) (enough : least ≤ run.length)
    (few : run.length ≤ most) (stop : run.length = most ∨ ∀ c ∈ rest.head?, c.isDigit = false) :
    number least (some most) (run ++ rest) = some (ofDecimalDigits run, rest) := by
  have taken : ((run ++ rest).takeWhile Char.isDigit).take most = run := by
    rcases stop with rfl | stop
    · rw [List.takeWhile_append_of_pos digits]
      exact List.take_left
    · rw [takeWhile_digits digits stop]
      exact List.take_of_length_le few
  unfold number
  dsimp only
  rw [taken, if_neg (Nat.not_lt.2 enough), List.drop_left]

theorem trimStart_digit (digit : c.isDigit = true) : trimStart (c :: rest) = c :: rest := by
  rw [trimStart, List.dropWhile_cons, isBlank_of_isDigit digit, if_neg Bool.false_ne_true]

theorem field_of_run (digits : ∀ c ∈ run, c.isDigit = true) (nonempty : run ≠ []) (few : run.length ≤ width)
    (stop : run.length = width ∨ ∀ c ∈ rest.head?, c.isDigit = false) :
    field width (run ++ rest) = some (ofDecimalDigits run, rest) := by
  obtain ⟨c, more, rfl⟩ := List.exists_cons_of_ne_nil nonempty
  have solid : blanks (c :: more ++ rest) = some ((), c :: more ++ rest) := by
    rw [blanks, List.cons_append, trimStart_digit (digits c List.mem_cons_self)]
  refine (bind_of_some solid).trans (number_of_run digits ?_ few stop)
  rw [List.length_cons]
  omega

theorem year_of_run (digits : ∀ c ∈ run, c.isDigit = true) (nonempty : run ≠ []) (few : run.length ≤ 4)
    (stop : run.length = 4 ∨ ∀ c ∈ rest.head?, c.isDigit = false) :
    year (run ++ rest) = some ((ofDecimalDigits run : ℤ), rest) := by
  obtain ⟨c, more, rfl⟩ := List.exists_cons_of_ne_nil nonempty
  have digit := digits c List.mem_cons_self
  have solid : blanks (c :: more ++ rest) = some ((), c :: more ++ rest) := by
    rw [blanks, List.cons_append, trimStart_digit digit]
  have read : number 1 (some 4) (c :: more ++ rest) = some (ofDecimalDigits (c :: more), rest) :=
    number_of_run digits (by rw [List.length_cons]; omega) few stop
  refine (bind_of_some solid).trans ((bind_of_some (u := some c) rfl).trans ?_)
  refine (congrFun (?_ : _ = number 1 (some 4) >>= fun n => pure (n : ℤ)) _).trans (bind_of_some read)
  split
  · rename_i minus
    cases Option.some.inj minus
    cases digit
  · rename_i plus
    cases Option.some.inj plus
    cases digit
  · rfl

section Padded

variable (rest)

theorem padded_ne_nil (pos : 0 < width) (small : n < 10 ^ width) : (Instant.padded width n).toList ≠ [] := by
  rw [← List.length_pos_iff, length_padded pos small]
  exact pos

theorem field_padded (small : n < 10 ^ 2) : field 2 ((Instant.padded 2 n).toList ++ rest) = some (n, rest) := by
  have length := length_padded (by decide) small
  rw [field_of_run (fun _ => isDigit_of_mem_padded) (padded_ne_nil (by decide) small) length.le (.inl length),
    ofDecimalDigits_padded]

theorem year_padded (small : n < 10 ^ 4) : year ((Instant.padded 4 n).toList ++ rest) = some ((n : ℤ), rest) := by
  have length := length_padded (by decide) small
  rw [year_of_run (fun _ => isDigit_of_mem_padded) (padded_ne_nil (by decide) small) length.le (.inl length),
    ofDecimalDigits_padded]

/-- Two digits are read as a year where no more digits follow. -/
theorem year_padded_two (small : n < 10 ^ 2) (stop : ∀ c ∈ rest.head?, c.isDigit = false) :
    year ((Instant.padded 2 n).toList ++ rest) = some ((n : ℤ), rest) := by
  have length := length_padded (by decide) small
  rw [year_of_run (fun _ => isDigit_of_mem_padded) (padded_ne_nil (by decide) small) (by omega) (.inr stop),
    ofDecimalDigits_padded]

/-- Of the four digits of a year two are read as a month or a day. -/
theorem field_padded_four (small : n < 10 ^ 4) : ∃ m c d, c.isDigit = true ∧
    field 2 ((Instant.padded 4 n).toList ++ rest) = some (m, c :: d :: rest) := by
  have length : (Instant.padded 4 n).toList.length = 4 := length_padded (by decide) small
  have digits : ∀ c ∈ (Instant.padded 4 n).toList, c.isDigit = true := fun _ => isDigit_of_mem_padded
  obtain ⟨a, b, c, d, four⟩ := List.length_eq_four.1 length
  rw [four] at digits ⊢
  have front : ∀ e ∈ [a, b], e.isDigit = true := fun e member => digits e (List.mem_append_left [c, d] member)
  have taken : field 2 ([a, b] ++ c :: d :: rest) = some (ofDecimalDigits [a, b], c :: d :: rest) :=
    field_of_run front (by simp) le_rfl (.inl rfl)
  exact ⟨_, c, d, digits c (by simp), taken⟩

end Padded

/-- The digits behind a point, which is left out with them. -/
def pointed : List Char → List Char
  | [] => []
  | c :: rest => '.' :: c :: rest

/-- The nanoseconds of the digits behind the point of a second; more than nine digits are dropped. -/
def nanosOf (digits : List Char) : ℕ := ofDecimalDigits digits * 10 ^ 9 / 10 ^ digits.length

theorem nanosOf_eq (digits : ∀ c ∈ run, c.isDigit = true) :
    nanosOf run = ofDecimalDigits (run.take 9) * 10 ^ (9 - min 9 run.length) := by
  rcases Nat.le_total run.length 9 with short | long
  · rw [nanosOf, List.take_of_length_le short, min_eq_right short]
    exact Nat.div_eq_of_eq_mul_left (by positivity) (by rw [mul_assoc, ← pow_add]; congr 2; omega)
  · have front : ∀ c ∈ run.take 9, c.isDigit = true := fun c member => digits c (List.mem_of_mem_take member)
    have back : ∀ c ∈ run.drop 9, c.isDigit = true := fun c member => digits c (List.mem_of_mem_drop member)
    have small := ofDecimalDigits_lt back
    have whole : ofDecimalDigits run =
        10 ^ (run.drop 9).length * ofDecimalDigits (run.take 9) + ofDecimalDigits (run.drop 9) := by
      rw [ofDecimalDigits_eq digits, ofDecimalDigits_eq front, ofDecimalDigits_eq back,
        ← Nat.ofDigitChars_eq_ofDigitChars_zero, ← Nat.ofDigitChars_append, List.take_append_drop]
    have length : 10 ^ run.length = 10 ^ (run.drop 9).length * 10 ^ 9 := by
      rw [← pow_add, List.length_drop]
      congr 1
      omega
    rw [nanosOf, length, Nat.mul_div_mul_right _ _ (by positivity), whole, Nat.mul_add_div (by positivity),
      Nat.div_eq_of_lt small, min_eq_left long, Nat.sub_self, pow_zero, add_zero, mul_one]

/-- A fraction of a second is read as its nanoseconds. -/
theorem fraction_pointed (digits : ∀ c ∈ run, c.isDigit = true)
    (stop : ∀ c ∈ rest.head?, c.isDigit = false ∧ c ≠ '.') :
    fraction (pointed run ++ rest) = some (nanosOf run, rest) := by
  cases run with
  | nil =>
    refine (bind_of_some (u := rest.head?) rfl).trans ?_
    refine (congrFun (?_ : _ = pure 0) _).trans rfl
    split
    · rename_i point
      exact absurd rfl (stop '.' point).2
    · rfl
  | cons c more =>
    have stop : ∀ c ∈ rest.head?, c.isDigit = false := fun c head => (stop c head).1
    have run := takeWhile_digits digits stop
    have few : runLength (c :: more ++ rest) = some ((c :: more).length, c :: more ++ rest) := by
      rw [runLength, run]
    have value : number 1 (some 9) (c :: more ++ rest) =
        some (ofDecimalDigits ((c :: more).take 9), (c :: more).drop 9 ++ rest) := by
      have front : ∀ d ∈ (c :: more).take 9, d.isDigit = true := fun d member => digits d (List.mem_of_mem_take member)
      have behind : ((c :: more).take 9).length = 9 ∨ ∀ d ∈ ((c :: more).drop 9 ++ rest).head?, d.isDigit = false := by
        rcases Nat.lt_or_ge (c :: more).length 9 with short | long
        · right
          rw [List.drop_eq_nil_of_le short.le]
          exact stop
        · left
          rw [List.length_take, min_eq_left long]
      have taken : number 1 (some 9) ((c :: more).take 9 ++ ((c :: more).drop 9 ++ rest)) =
          some (ofDecimalDigits ((c :: more).take 9), (c :: more).drop 9 ++ rest) :=
        number_of_run front (by simp) (by simp) behind
      rwa [← List.append_assoc, List.take_append_drop] at taken
    have dropped : discard (number 0 none) ((c :: more).drop 9 ++ rest) = some ((), rest) := by
      refine discard_eq_some (u := ofDecimalDigits ((c :: more).drop 9)) ?_
      have back : ∀ d ∈ (c :: more).drop 9, d.isDigit = true := fun d member => digits d (List.mem_of_mem_drop member)
      unfold number
      dsimp only
      rw [takeWhile_digits back stop, if_neg (Nat.not_lt_zero _), List.drop_left]
    refine (bind_of_some (u := some '.') rfl).trans ?_
    refine (bind_of_some (char_cons '.' (c :: more ++ rest))).trans ?_
    refine (bind_of_some few).trans ((bind_of_some value).trans ((bind_of_some dropped).trans ?_))
    rw [nanosOf_eq digits]
    rfl

end Calendar

end Reckoner
