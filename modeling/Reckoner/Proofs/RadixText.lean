import Reckoner.Proofs.IntegerReading
import Reckoner.Proofs.NumberText

namespace Reckoner.Number

open Value (digitChar radixDigits radixText)

section Whole

variable {x : Float} {n : ℤ}

theorem exact_abs {negative : Bool} {m : ℕ} {q : ℤ} (content : exact x = .finite negative m q) :
    exact x.abs = .finite false m q := by
  have fits : Fits x.toModel.unpack.abs := by
    have fits := fits_unpack x
    generalize x.toModel.unpack = u at fits
    cases u <;> exact fits
  rw [exact_eq_ofUnpacked] at content
  refine (exact_pack fits).trans ?_
  generalize x.toModel.unpack = u at content
  cases u <;> cases content <;> rfl

theorem HasValue.abs (value : HasValue x n) : HasValue x.abs (n.natAbs : ℤ) := by
  obtain ⟨negative, m, q, content, value⟩ := value
  refine ⟨false, m, q, exact_abs content, ?_⟩
  rw [signedValue_false, Int.cast_natCast, (natAbs_of_signedValue value).1]

theorem HasValue.isWhole (value : HasValue x n) : isWhole x = true := by
  obtain ⟨negative, m, q, content, value⟩ := value
  rw [Number.isWhole, content]
  simpa using whole_of_value (natAbs_of_signedValue value).1

theorem HasValue.lt_zero_iff (value : HasValue x n) : x < 0.0 ↔ n < 0 := by
  have zero : HasValue 0.0 ((0 : ℕ) : ℤ) := hasValue_literal 0 (by decide)
  rw [value.lt_iff zero, Int.cast_lt, Nat.cast_zero]

end Whole

section Decimals

variable {x : Float} {m n c : ℕ} {q : ℤ}

/-- A decimal loses only zeros at the end. -/
theorem Decimal.exists_trim (limit : ℕ) (d : Decimal) :
    ∃ k : ℕ, d.coefficient = (d.trim limit).coefficient * 10 ^ k ∧ (d.trim limit).exponent = d.exponent + k := by
  induction limit generalizing d with
  | zero => exact ⟨0, (Nat.mul_one _).symm, (Int.add_zero _).symm⟩
  | succ limit ih =>
    unfold trim
    split
    · rename_i tens
      obtain ⟨k, coefficient, exponent⟩ := ih ⟨d.coefficient / 10, d.exponent + 1⟩
      refine ⟨k + 1, ?_, by rw [exponent]; push_cast; ring⟩
      rw [pow_succ, ← mul_assoc, ← coefficient]
      exact (Nat.div_mul_cancel (Nat.dvd_of_mod_eq_zero tens)).symm
    · exact ⟨0, (Nat.mul_one _).symm, (Int.add_zero _).symm⟩

theorem decimalDigits_mul_pow (pos : 0 < c) (k : ℕ) : decimalDigits (c * 10 ^ k) = decimalDigits c ++ zeros k := by
  induction k with
  | zero => simp [zeros]
  | succ k ih =>
    have ten := Nat.toDigits_append_toDigits (b := 10) (n := c * 10 ^ k) (d := 0) (by decide) (by positivity)
      (by decide)
    have product : c * 10 ^ (k + 1) = 10 * (c * 10 ^ k) + 0 := by ring
    rw [product, decimalDigits, ← ten]
    change decimalDigits (c * 10 ^ k) ++ zeros 1 = _
    rw [ih, List.append_assoc, zeros, zeros, zeros, ← List.replicate_add]

theorem whole?_eq_some (canonical : IsCanonical m q) (pos : 0 < m) (value : (n : ℚ) = m * 2 ^ q) (small : n < 2 ^ 53) :
    whole? m q = some n := by
  have full : (2 : ℚ) ^ 52 ≤ m := by exact_mod_cast canonical.full_of_whole pos value
  have short : (n : ℚ) < 2 ^ 53 := by exact_mod_cast small
  have least : q ≤ 0 := by
    refine not_lt.1 fun above => ?_
    have two : (2 : ℚ) ≤ 2 ^ q := by
      calc (2 : ℚ) = 2 ^ (1 : ℤ) := (zpow_one 2).symm
        _ ≤ 2 ^ q := zpow_le_zpow_right₀ (by norm_num) (by omega)
    nlinarith
  have divides : m % twoTo (-q).toNat = 0 := by
    rcases whole_of_value value with whole | divides
    · rw [le_antisymm least whole]
      exact Nat.mod_one m
    · exact divides
  have quotient := cast_div_twoTo least divides
  rw [← value, Nat.cast_inj] at quotient
  rw [whole?, if_pos ⟨least, divides⟩, quotient]

/-- Zeros stand behind the digits of a decimal that is whole. -/
theorem place_decimal (pos : 0 < c) {k : ℕ} (small : c * 10 ^ k < 2 ^ 53) :
    Layout.plain.place (Decimal.mk c k).pointed = decimalDigits (c * 10 ^ k) := by
  have digits := decimalDigits_mul_pow pos k
  have length : (decimalDigits (c * 10 ^ k)).length ≤ 16 :=
    (Nat.length_toDigits_le_iff (by decide) (by decide)).2 (small.trans (by decide))
  have parts := congrArg List.length digits
  rw [List.length_append, zeros, List.length_replicate] at parts
  have fits : (Layout.plain.leastPoint.all (· ≤ ((decimalDigits c).length + k : ℤ)) &&
      Layout.plain.greatestPoint.all (((decimalDigits c).length + k : ℤ) ≤ ·)) = true := by
    simp only [Layout.plain, Option.all_some, Bool.and_eq_true, decide_eq_true_eq]
    omega
  have behind : ((decimalDigits c).length + (k : ℤ)).toNat - (decimalDigits c).length = k := by omega
  rw [digits, Layout.place, Decimal.pointed]
  dsimp only
  rw [if_pos fits, Pointed.positional]
  dsimp only
  rw [if_pos (by omega), behind]
  exact List.append_nil _

/-- Whole numbers are written with all their digits. -/
theorem place_shortest (whole : whole? m q = some n) (pos : 0 < n) (small : n < 2 ^ 53) :
    Layout.plain.place (shortest .up m q).pointed = decimalDigits n := by
  obtain ⟨k, coefficient, exponent⟩ := Decimal.exists_trim 17 ⟨n, 0⟩
  rw [shortest, whole]
  dsimp only
  cases trimmed : (Decimal.mk n 0).trim 17 with
  | mk c e =>
    rw [trimmed] at coefficient exponent
    obtain rfl : e = k := exponent.trans (zero_add _)
    obtain rfl : n = c * 10 ^ k := coefficient
    exact place_decimal (Nat.pos_of_mul_pos_right pos) small

theorem text_of_whole {n : ℤ} (value : HasValue x n) (small : n.natAbs < 2 ^ 53) :
    text x = String.ofList (signed (n < 0) (decimalDigits n.natAbs)) := by
  obtain ⟨negative, m, q, content, value⟩ := value
  obtain ⟨size, sign⟩ := natAbs_of_signedValue value
  rcases m.eq_zero_or_pos with rfl | pos
  · rw [text_of_zero ((beq_zero_iff x).2 ⟨negative, q, content⟩)]
    obtain rfl : n = 0 := by
      rw [Nat.cast_zero, zero_mul] at size
      exact Int.natAbs_eq_zero.1 (by exact_mod_cast size)
    rfl
  · have positive : 0 < n.natAbs := by
      have : (0 : ℚ) < n.natAbs := by
        rw [size]
        positivity
      exact_mod_cast this
    have whole := whole?_eq_some (isCanonical_of_exact content) pos size small
    have negative_iff : negative = decide (n < 0) := by
      cases negative with
      | false =>
        rw [if_neg Bool.false_ne_true] at sign
        exact (decide_eq_false (by omega)).symm
      | true =>
        rw [if_pos rfl] at sign
        exact (decide_eq_true (by omega)).symm
    have placed : Layout.plain.place (shortest Layout.plain.tie m q).pointed = decimalDigits n.natAbs :=
      place_shortest whole positive small
    rw [text, Layout.render, content]
    dsimp only
    rw [if_neg pos.ne', placed, negative_iff]

end Decimals

section Digits

variable {x : Float} {radix m : ℕ}

theorem isFigure_digitChar (greatest : radix ≤ 36) {value : ℕ} (below : value < radix) :
    IsFigure radix (digitChar value) value := by
  have figures : ∀ value < 36, smallFigures[value]? = some (digitChar value) := by decide
  exact ⟨below, .inl (figures value (below.trans_le greatest))⟩

/-- The digits are taken off a whole number from the last one on. -/
theorem radixDigits_eq (least : 2 ≤ radix) (greatest : radix ≤ 36) {limit : ℕ} (value : HasValue x (m : ℤ))
    (small : m < 2 ^ 53) (short : m < radix ^ limit) :
    radixDigits radix limit x = (Nat.digits radix m).map digitChar := by
  induction limit generalizing x m with
  | zero =>
    have zero : m = 0 := by
      rw [pow_zero] at short
      omega
    rw [zero, Nat.digits_zero]
    rfl
  | succ limit ih =>
    have order : x ≥ 1.0 ↔ 1 ≤ m := by
      have one : HasValue 1.0 ((1 : ℕ) : ℤ) := hasValue_literal 1 (by decide)
      rw [ge_iff_le, one.le_iff value, Int.cast_natCast, Int.cast_natCast, Nat.cast_le]
    unfold radixDigits
    by_cases some : 1 ≤ m
    · have base : HasValue (Float.ofNat radix) (radix : ℤ) := hasValue_ofNat (by omega)
      have rest := value.remainder base (by omega)
      have quotient := value.floor_div base (by omega) (by omega) (by omega)
      rw [← Int.natCast_div] at quotient
      have last : ((toInt? (remainder x (Float.ofNat radix))).getD 0).toNat = m % radix := by
        rw [rest.toInt?]
        rfl
      rw [if_pos (order.2 some), last, Nat.digits_def' least some, List.map_cons,
        ih quotient ((Nat.div_le_self m radix).trans_lt small) (Nat.div_lt_of_lt_mul (by rwa [← pow_succ']))]
    · rw [if_neg (order.not.2 some), show m = 0 by omega, Nat.digits_zero]
      rfl

theorem isNatural_digits (least : 2 ≤ radix) (greatest : radix ≤ 36) (pos : 0 < m) :
    IsNatural radix ((Nat.digits radix m).map digitChar).reverse m := by
  refine ⟨by simpa [Nat.digits_ne_nil_iff_ne_zero] using pos.ne', (Nat.digits radix m).reverse, ?_, ?_⟩
  · rw [List.forall₂_reverse_iff, List.forall₂_map_left_iff, List.forall₂_same]
    exact fun value member => isFigure_digitChar greatest (Nat.digits_lt_base (by omega) member)
  · rw [List.reverse_reverse, Nat.ofDigits_digits]

/-- The text of a whole number in a radix is a sign and the digits of its magnitude. -/
theorem exists_radixText {n : ℤ} (value : HasValue x n) (small : n.natAbs < 2 ^ 53) (least : 2 ≤ radix)
    (greatest : radix ≤ 36) : ∃ digits, radixText x radix = String.ofList (signed (n < 0) digits) ∧
      IsNatural radix digits n.natAbs := by
  by_cases ten : radix = 10
  · refine ⟨decimalDigits n.natAbs, ?_, ?_⟩
    · rw [radixText, ten, decide_eq_true rfl, Bool.true_or, if_pos rfl, text_of_whole value small]
    · rw [ten, isNatural_ten]
      exact ⟨decimalDigits_ne_nil _, fun _ => isDigit_of_mem_decimalDigits, ofDecimalDigits_decimalDigits _⟩
  · have short : n.natAbs < radix ^ 1024 := by
      have longer {limit : ℕ} (le : 53 ≤ limit) : radix ^ 53 ≤ radix ^ limit :=
        Nat.pow_le_pow_right (Nat.zero_lt_of_lt least) le
      exact small.trans_le ((Nat.pow_le_pow_left least 53).trans (longer (by decide)))
    have digits := radixDigits_eq least greatest value.abs small short
    have negative : decide (x < 0.0) = decide (n < 0) := decide_eq_decide.2 value.lt_zero_iff
    rw [radixText, decide_eq_false ten, value.isWhole, Bool.not_true, Bool.false_or, if_neg Bool.false_ne_true, digits,
      negative]
    refine ⟨_, rfl, ?_⟩
    rcases n.natAbs.eq_zero_or_pos with zero | pos
    · have figure : IsFigure radix '0' 0 := ⟨by omega, .inl rfl⟩
      rw [zero, Nat.digits_zero]
      exact ⟨List.cons_ne_nil _ _, [0], .cons figure .nil, rfl⟩
    · have natural := isNatural_digits least greatest pos
      split
      · rename_i negative
        rw [negative] at natural
        exact absurd rfl natural.1
      · exact natural

end Digits

section Reading

variable {x y : Float} {radix m : ℕ} {digits : List Char}

theorem solid_figures :
    (smallFigures ++ capitalFigures).all (fun c => !Text.isBlank c && c != '+' && c != '-') = true := by
  decide

/-- Digits are neither blanks nor signs. -/
theorem IsNatural.solid (natural : IsNatural radix digits m) :
    ∀ c ∈ digits.head?, Text.isBlank c = false ∧ c ≠ '+' ∧ c ≠ '-' := by
  intro c first
  have figure := List.all_eq_true.1 solid_figures c (natural.mem_figures c (List.mem_of_mem_head? first))
  simpa [and_assoc] using figure

theorem optionalSign_signed (negative : Bool) : ∃ sign, OptionalSign sign negative ∧
    ∀ digits, signed negative digits = sign ++ digits := by
  cases negative with
  | false => exact ⟨[], .absent, fun _ => rfl⟩
  | true => exact ⟨['-'], .minus, fun _ => rfl⟩

/-- The mark of radix 16 has a letter that is no digit of it. -/
theorem not_hexMark_of_isNatural (natural : IsNatural 16 digits m) {mark : List Char}
    (member : (mark, 16) ∈ radixMarks) : ¬mark <+: digits := by
  obtain ⟨-, values, figures, -⟩ := natural
  have letter (value : ℕ) : ¬IsFigure 16 'x' value ∧ ¬IsFigure 16 'X' value := by
    rw [← digitValue?_eq_some (by decide), ← digitValue?_eq_some (by decide)]
    exact ⟨nofun, nofun⟩
  rintro ⟨rest, rfl⟩
  rcases hexMark_iff.1 member with rfl | rfl
  · obtain _ | ⟨-, _ | ⟨second, -⟩⟩ := figures
    exact (letter _).1 second
  · obtain _ | ⟨-, _ | ⟨second, -⟩⟩ := figures
    exact (letter _).2 second

theorem isCut_signed {sign : List Char} {negative : Bool} {values : List ℕ} (signed : OptionalSign sign negative)
    (natural : IsNatural radix digits m) (figures : List.Forall₂ (IsFigure radix) digits values) :
    IntegerText.IsCut (radix = 16) radix ⟨[], sign, negative, [], digits, values, []⟩ where
  blanks := nofun
  solid := by
    cases signed with
    | absent => simpa [IntegerText.unsigned] using fun c first => (natural.solid c first).1
    | plus | minus =>
      intro c first
      cases first
      rfl
  sign := signed
  unsigned := by simpa [IntegerText.unsigned] using fun _ c first => (natural.solid c first).2
  mark := .inl rfl
  unmarked := by
    rintro rfl - mark member
    simpa [IntegerText.unsigned] using not_hexMark_of_isNatural natural member
  digits := figures
  stop := nofun

/-- A sign and the digits of a number are read back. -/
theorem hasValue_readInteger (natural : IsNatural radix digits m) (small : m < 2 ^ 53) (least : 2 ≤ radix)
    (greatest : radix ≤ 36) (place : integerPlace y = .ofInt radix) (negative : Bool) :
    HasValue (readInteger (String.ofList (signed negative digits)) y) (if negative then -(m : ℤ) else m : ℤ) := by
  obtain ⟨sign, optional, shape⟩ := optionalSign_signed negative
  have ⟨nonempty, values, figures, value⟩ := natural
  have read := IntegerText.readInteger_radix (isCut_signed optional natural figures) least greatest place
  have text : IntegerText.text ⟨[], sign, negative, [], digits, values, []⟩ = signed negative digits := by
    rw [shape, IntegerText.text, IntegerText.unsigned, List.nil_append, List.nil_append, List.append_nil]
  have bounded : ∀ v ∈ values, v < radix := ((List.forall₂_and_left _ _).1 figures.flip).1
  have sum := hasValue_digitSum (by omega) (by omega) bounded value small
  rw [text, IntegerText.number, if_neg nonempty] at read
  rw [read]
  cases negative with
  | false => exact sum
  | true =>
    have opposite := sum.neg
    rwa [← Int.cast_neg] at opposite

end Reading

end Reckoner.Number

namespace Reckoner

open Number

/-- Whole numbers survive being written in a radix and read in it. -/
theorem Value.parseInt_toString {x y : Float} {n : ℤ} {radix : ℕ} (value : HasValue x n) (small : n.natAbs < 2 ^ 53)
    (base : HasValue y (radix : ℤ)) (least : 2 ≤ radix) (greatest : radix ≤ 36) :
    ∃ s z, callMethod (.number x) "toString" [.number y] = some (.ok (.string s)) ∧
      Builtin.call .parseInt [.string s, .number y] = .ok (.number z) ∧ HasValue z n ∧ (z == x) = true := by
  have place : integerPlace y = .ofInt radix := base.integerPlace
  obtain ⟨digits, written, natural⟩ := exists_radixText value small least greatest
  have read := hasValue_readInteger natural small least greatest place (n < 0)
  have same : (if decide (n < 0) then -(n.natAbs : ℤ) else n.natAbs) = n := by
    simp only [decide_eq_true_eq]
    split <;> omega
  rw [same, ← written] at read
  have low : (2.0 : Float) ≤ y := (HasValue.le_iff (hasValue_literal 2 (by decide)) base).2 (by exact_mod_cast least)
  have high : y ≤ 36.0 := (HasValue.le_iff base (hasValue_literal 36 (by decide))).2 (by exact_mod_cast greatest)
  have called : numberToString x (.number y) = .ok (.string (radixText x radix)) := by
    have whole : integerPart (toNumber (.number y)) = y := by
      change (if y.isNaN then 0.0 else trunc y) = y
      rw [base.isFinite.1, if_neg Bool.false_ne_true, base.trunc]
    rw [numberToString, whole, if_pos ⟨low, high⟩, base.toInt?]
    · rfl
    · exact nofun
  exact ⟨_, _, congrArg some called, rfl, read, (beq_iff_place read.place? value.place?).2 rfl⟩

/-- A negative number in radix 36. -/
theorem Value.parseInt_toString_negative : ∃ s z,
    callMethod (.number (-123456789.0)) "toString" [.number 36.0] = some (.ok (.string s)) ∧
      Builtin.call .parseInt [.string s, .number 36.0] = .ok (.number z) ∧ HasValue z (-123456789 : ℤ) ∧
      (z == -123456789.0) = true := by
  have value : HasValue (-123456789.0) (-123456789 : ℤ) := by
    have opposite := (hasValue_literal 123456789 (by decide)).neg
    rwa [← Int.cast_neg] at opposite
  have base : HasValue 36.0 ((36 : ℕ) : ℤ) := hasValue_literal 36 (by decide)
  exact parseInt_toString value (by decide) base (by decide) (by decide)

end Reckoner
