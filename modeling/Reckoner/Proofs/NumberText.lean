import Reckoner.Proofs.LiteralText
import Reckoner.Proofs.ShortestDecimal

namespace Reckoner.Number

/-- The number that a literal denotes. -/
def Literal.rational (l : Literal) : ℚ :=
  ofDecimalDigits (l.whole ++ l.fraction) * 10 ^ (l.exponent - l.fraction.length)

/-- The value of digits with a point. -/
def Pointed.rational (p : Pointed) : ℚ := ofDecimalDigits p.digits * 10 ^ (p.point - p.digits.length)

/-- The literal whose text the layout of the calculation language places. -/
def Pointed.literal (p : Pointed) : Literal :=
  if -5 ≤ p.point ∧ p.point ≤ 21 then
    if p.digits.length ≤ p.point then ⟨p.digits ++ zeros (p.point.toNat - p.digits.length), [], 0⟩
    else if 0 < p.point then ⟨p.digits.take p.point.toNat, p.digits.drop p.point.toNat, 0⟩
    else ⟨['0'], zeros (-p.point).toNat ++ p.digits, 0⟩
  else ⟨p.digits.take 1, p.digits.drop 1, p.point - 1⟩

theorem place_plain {p : Pointed} (nonempty : p.digits ≠ []) : Layout.plain.place p = p.literal.text := by
  have fits : (Layout.plain.leastPoint.all (· ≤ p.point) && Layout.plain.greatestPoint.all (p.point ≤ ·)) = true ↔
      -5 ≤ p.point ∧ p.point ≤ 21 := by
    simp [Layout.plain]
  have suffix : Layout.plain.wholeSuffix.toList = [] := rfl
  unfold Layout.place Pointed.literal
  by_cases near : -5 ≤ p.point ∧ p.point ≤ 21
  · rw [if_pos (fits.2 near), if_pos near, Pointed.positional, suffix]
    split_ifs with whole inner
    · simp [Literal.text, exponentText]
    · have rest : ¬p.digits.drop p.point.toNat = [] := by
        rw [List.drop_eq_nil_iff]
        omega
      simp [Literal.text, exponentText, rest]
    · simp [Literal.text, exponentText, nonempty]
  · have scaled : p.point - 1 ≠ 0 := by omega
    rw [if_neg (fits.not.2 near), if_neg near, Pointed.scientific, Literal.text, exponentText, if_neg scaled]
    rcases p.digits with _ | ⟨c, _ | ⟨d, rest⟩⟩ <;> simp

theorem isDigit_of_mem_zeros {n : ℕ} {c : Char} (member : c ∈ zeros n) : c.isDigit = true := by
  rw [List.eq_of_mem_replicate member]
  rfl

theorem ofDecimalDigits_append_zeros {text : List Char} (digits : ∀ c ∈ text, c.isDigit = true) (n : ℕ) :
    ofDecimalDigits (text ++ zeros n) = 10 ^ n * ofDecimalDigits text := by
  have all : ∀ c ∈ text ++ zeros n, c.isDigit = true :=
    List.forall_mem_append.2 ⟨digits, fun _ => isDigit_of_mem_zeros⟩
  rw [ofDecimalDigits_eq all, ofDecimalDigits_eq digits, Nat.ofDigitChars_append, zeros,
    Nat.ofDigitChars_replicate_zero]

theorem ofDecimalDigits_zeros_append {text : List Char} (digits : ∀ c ∈ text, c.isDigit = true) (n : ℕ) :
    ofDecimalDigits (zeros n ++ text) = ofDecimalDigits text := by
  have all : ∀ c ∈ zeros n ++ text, c.isDigit = true :=
    List.forall_mem_append.2 ⟨fun _ => isDigit_of_mem_zeros, digits⟩
  rw [ofDecimalDigits_eq all, ofDecimalDigits_eq digits, Nat.ofDigitChars_append, zeros,
    Nat.ofDigitChars_replicate_zero, Nat.mul_zero]

theorem rational_literal {p : Pointed} (nonempty : p.digits ≠ []) (digits : ∀ c ∈ p.digits, c.isDigit = true) :
    p.literal.rational = p.rational := by
  have length := List.length_pos_iff.2 nonempty
  unfold Pointed.literal Pointed.rational
  split_ifs with near whole inner <;> rw [Literal.rational] <;> dsimp only
  · rw [List.append_nil, ofDecimalDigits_append_zeros digits, Nat.cast_mul, mul_comm ((10 ^ _ : ℕ) : ℚ), mul_assoc,
      Nat.cast_pow, Nat.cast_ofNat, ← zpow_natCast, ← zpow_add₀ (by norm_num)]
    congr 2
    simp
    omega
  · rw [List.take_append_drop, List.length_drop]
    congr 2
    omega
  · have more : '0' :: zeros (-p.point).toNat = zeros ((-p.point).toNat + 1) := rfl
    rw [List.singleton_append, ← List.cons_append, more, ofDecimalDigits_zeros_append digits, List.length_append, zeros,
      List.length_replicate]
    congr 2
    omega
  · rw [List.take_append_drop, List.length_drop]
    congr 2
    omega

theorem isPlain_literal {p : Pointed} (nonempty : p.digits ≠ []) (digits : ∀ c ∈ p.digits, c.isDigit = true)
    (small : (p.point - 1).natAbs < 2 ^ 16) : p.literal.IsPlain := by
  have length := List.length_pos_iff.2 nonempty
  unfold Pointed.literal
  have zero : ∀ c ∈ ['0'], c.isDigit = true := by simp
  have plain : (0 : ℤ).natAbs < 2 ^ 16 := by decide
  have padding (n : ℕ) : ∀ c ∈ zeros n, c.isDigit = true := fun _ => isDigit_of_mem_zeros
  split_ifs with near whole inner
  · exact ⟨by simpa using fun nothing => absurd nothing nonempty,
      by simpa using List.forall_mem_append.2 ⟨digits, padding _⟩, plain⟩
  · exact ⟨by simpa [nonempty] using inner, by simpa only [List.take_append_drop] using digits, plain⟩
  · exact ⟨List.cons_ne_nil _ _,
      List.forall_mem_append.2 ⟨zero, List.forall_mem_append.2 ⟨padding _, digits⟩⟩, plain⟩
  · exact ⟨by simpa using nonempty, by simpa only [List.take_append_drop] using digits, small⟩

theorem decimalDigits_bounds {n : ℕ} (pos : 0 < n) :
    10 ^ ((decimalDigits n).length - 1) ≤ n ∧ n < 10 ^ (decimalDigits n).length := by
  have length := List.length_pos_iff.2 (decimalDigits_ne_nil n)
  refine ⟨?_, (Nat.length_toDigits_le_iff (by decide) length).1 le_rfl⟩
  rcases Nat.eq_or_lt_of_le (Nat.succ_le_of_lt length) with one | more
  · rw [← one]
    exact pos
  · refine not_lt.1 fun less => ?_
    have := (Nat.length_toDigits_le_iff (b := 10) (n := n) (by decide) (Nat.sub_pos_of_lt more)).2 less
    change (decimalDigits n).length ≤ _ at this
    omega

theorem rational_pointed (d : Decimal) : d.pointed.rational = d.value := by
  rw [Pointed.rational, Decimal.pointed, ofDecimalDigits_decimalDigits, add_sub_cancel_left, Decimal.value]

section Printing

variable {m : ℕ} {q : ℤ}

/-- The point of a decimal in the interval of a number is not far from the digits. -/
theorem point_bounds (canonical : IsCanonical m q) (pos : 0 < m) {d : Decimal}
    (inside : (RoundingInterval.of m q).Contains d.value) : -400 < d.pointed.point ∧ d.pointed.point ≤ 400 := by
  obtain ⟨low, high⟩ := decimalDigits_bounds (inside.coefficient_pos canonical pos)
  have length := List.length_pos_iff.2 (decimalDigits_ne_nil d.coefficient)
  apply inside.magnitude canonical pos <;> rw [Decimal.value, Decimal.pointed]
  · have places : ((decimalDigits d.coefficient).length + d.exponent - 1 : ℤ) =
        ((decimalDigits d.coefficient).length - 1 : ℕ) + d.exponent := by omega
    rw [places, zpow_add₀ (by norm_num), zpow_natCast]
    exact mul_le_mul_of_nonneg_right (by exact_mod_cast low) (by positivity)
  · rw [zpow_add₀ (by norm_num), zpow_natCast]
    exact mul_lt_mul_of_pos_right (by exact_mod_cast high) (by positivity)

/-- The literal that is printed for the magnitude of a number. -/
def printed (m : ℕ) (q : ℤ) : Literal := (shortest .up m q).pointed.literal

theorem isPlain_printed (canonical : IsCanonical m q) (pos : 0 < m) : (printed m q).IsPlain := by
  have bounds := point_bounds canonical pos (contains_shortest .up canonical pos)
  exact isPlain_literal (decimalDigits_ne_nil _) (fun _ => isDigit_of_mem_decimalDigits) (by omega)

theorem rational_printed (m : ℕ) (q : ℤ) : (printed m q).rational = (shortest .up m q).value := by
  rw [printed, rational_literal (decimalDigits_ne_nil _) (fun _ => isDigit_of_mem_decimalDigits), rational_pointed]

theorem exact_printed (canonical : IsCanonical m q) (pos : 0 < m) : exact (printed m q).value = .finite false m q := by
  refine exact_nearest canonical pos (isPlain_printed canonical pos).digits ?_
  have inside := contains_shortest .up canonical pos
  rwa [← rational_printed] at inside

section Reading

variable {x : Float} {negative : Bool} (content : exact x = .finite negative m q) (pos : 0 < m)

include content pos

theorem text_eq : text x = String.ofList (signed negative (printed m q).text) := by
  rw [text, Layout.render, content]
  dsimp only
  rw [if_neg pos.ne', printed, ← place_plain (decimalDigits_ne_nil _)]
  rfl

theorem withSign_printed : withSign negative (printed m q).value = x := by
  have canonical := isCanonical_of_exact content
  exact exact_injective ((exact_withSign (exact_printed canonical pos) negative).trans content.symm)

theorem readDecimal?_text : readDecimal? (text x).toList = some x := by
  have plain := isPlain_printed (isCanonical_of_exact content) pos
  rw [text_eq content pos, String.toList_ofList, readDecimal?_signed plain, withSign_printed content pos]

theorem ofText_text_of_pos : ofText (text x) = x := by
  have plain := isPlain_printed (isCanonical_of_exact content) pos
  rw [text_eq content pos, ofText_signed plain, withSign_printed content pos]

end Reading

/-- A text without a sign is one token. -/
theorem scanLiteral_text_of_pos {x : Float} (content : exact x = .finite false m q) (pos : 0 < m) :
    Token.scanLiteral (text x).toList = some (.number x, []) := by
  have plain := isPlain_printed (isCanonical_of_exact content) pos
  have value : (printed m q).value = x := withSign_printed content pos
  rw [text_eq content pos, String.toList_ofList, signed, if_neg Bool.false_ne_true, scanLiteral_text plain, value]

end Printing

theorem text_of_zero {x : Float} (zero : (x == 0.0) = true) : text x = "0" := by
  obtain ⟨negative, q, content⟩ := (beq_zero_iff x).1 zero
  rw [text, Layout.render, content]
  cases negative <;> rfl

/-- Also the texts of the numbers that are not finite are read back. -/
theorem ofText_text {x : Float} (nonzero : ¬(x == 0.0) = true) : ofText (text x) = x := by
  cases content : exact x with
  | nan =>
    rw [text, Layout.render, content]
    exact exact_injective ((by decide +kernel : exact (ofText "NaN") = .nan).trans content.symm)
  | infinite negative =>
    rw [text, Layout.render, content]
    refine exact_injective (Eq.trans ?_ content.symm)
    cases negative <;> decide +kernel
  | finite negative m q =>
    refine ofText_text_of_pos content (Nat.pos_of_ne_zero fun zero => nonzero ?_)
    exact (beq_zero_iff x).2 ⟨negative, q, zero ▸ content⟩

/-- Numbers survive being printed. The text of a finite number other than zero is a decimal literal with a sign that
denotes the shortest decimal exactly. Every number is read back from its text, but for the sign of zero, which is not
printed, and where the sign allows it the text is one token. -/
theorem text_reads_back (x : Float) :
    (∀ negative m q, exact x = .finite negative m q → m ≠ 0 → ∃ body l, text x = String.ofList (signed negative body) ∧
      readLiteral? body = some (l, []) ∧ l.rational = (shortest .up m q).value ∧
      readDecimal? (text x).toList = some x) ∧
    ofText (text x) = (if x == 0.0 then 0.0 else x) ∧
    (x.isFinite = true → 0.0 ≤ x →
      ∃ y, Token.scanLiteral (text x).toList = some (.number y, []) ∧ (x == y) = true) := by
  refine ⟨?_, ?_, ?_⟩
  · intro negative m q content nonzero
    have pos := Nat.pos_of_ne_zero nonzero
    have plain := isPlain_printed (isCanonical_of_exact content) pos
    exact ⟨_, _, text_eq content pos, readLiteral?_text plain, rational_printed m q, readDecimal?_text content pos⟩
  · split_ifs with zero
    · rw [text_of_zero zero]
      decide +kernel
    · exact ofText_text zero
  · intro bounded sign
    obtain ⟨negative, m, q, content⟩ := (isFinite_iff x).1 bounded
    rcases m.eq_zero_or_pos with rfl | pos
    · have zero := (beq_zero_iff x).2 ⟨negative, q, content⟩
      rw [text_of_zero zero]
      exact ⟨0.0, rfl, zero⟩
    · obtain rfl := (sign_of_nonnegative content sign).resolve_right pos.ne'
      exact ⟨x, scanLiteral_text_of_pos content pos, beq_self_of_finite content⟩

/-- A number that is written with an exponent. -/
theorem text_reads_back_scaled : text (-1.5e-7) = "-1.5e-7" ∧ ofText "-1.5e-7" = -1.5e-7 ∧ text 1.5e-7 = "1.5e-7" ∧
    ∃ y, Token.scanLiteral "1.5e-7".toList = some (.number y, []) ∧ ((1.5e-7 : Float) == y) = true := by
  have below : text (-1.5e-7) = "-1.5e-7" := by decide +kernel
  have above : text 1.5e-7 = "1.5e-7" := by decide +kernel
  have back := (text_reads_back (-1.5e-7)).2.1
  have token := (text_reads_back 1.5e-7).2.2 (by decide +kernel) (by decide +kernel)
  rw [below, if_neg (by decide +kernel)] at back
  rw [above] at token
  exact ⟨below, back, above, token⟩

example : [1e21, 123456.0, 12.5, -0.0015].map text = ["1e+21", "123456", "12.5", "-0.0015"] := by
  decide +kernel

end Reckoner.Number
