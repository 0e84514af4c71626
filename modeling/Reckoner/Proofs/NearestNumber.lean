import Reckoner.Number.Reading
import Reckoner.Proofs.CorrectRounding
import Reckoner.Proofs.DecimalDigits

namespace Reckoner.Number

open Float.Model (UnpackedFloat Format totalExponent)
open Float.Model.UnpackedFloat

section Operations

variable {m₁ m₂ : ℕ} {e₁ e₂ : ℤ}

theorem mul_rounded (pos₁ : 0 < m₁) (pos₂ : 0 < m₂) (long : 2 ^ 52 ≤ m₁ * m₂) :
    IsRounded (m₁ * 2 ^ e₁ * (m₂ * 2 ^ e₂))
      (mul .binary64 (.finite .positive m₁ e₁ pos₁) (.finite .positive m₂ e₂ pos₂)) := by
  have digits : 52 ≤ (m₁ * m₂).log2 := (Nat.le_log2 (Nat.mul_pos pos₁ pos₂).ne').2 long
  apply roundWithAccuracy_rounded
  · change (m₁ * 2 ^ e₁ * (m₂ * 2 ^ e₂) / 2 ^ (e₁ + e₂) : ℚ) = (m₁ * m₂ : ℕ)
    rw [zpow_add₀ (by norm_num)]
    push_cast
    field_simp
  · rw [targetExponent_eq, totalExponent]
    omega

/-- A quotient of whole numbers is represented by its integer part and the remainder. -/
theorem represents_quotient (n : ℕ) {d : ℕ} (pos : 0 < d) :
    Represents (.ofMantissaAndAccuracy (n / d) (accuracyOfFraction (n % d) d)) (n / d : ℚ) := by
  have positive : (0 : ℚ) < d := by exact_mod_cast pos
  have parts : (n : ℚ) / d = (n / d : ℕ) + (n % d : ℕ) / d := by
    field_simp
    exact_mod_cast (Nat.div_add_mod n d).symm
  have below : n % d < d := Nat.mod_lt _ pos
  rw [parts]
  generalize n / d = whole at *
  generalize n % d = r at *
  have rest : (r : ℚ) / d < 1 := (div_lt_one positive).2 (by exact_mod_cast below)
  unfold accuracyOfFraction
  split
  · simp only [‹r = 0›, Nat.cast_zero, zero_div, add_zero]
    rfl
  · have excess : (0 : ℚ) < r / d := div_pos (by exact_mod_cast Nat.pos_of_ne_zero ‹_›) positive
    cases order : compare (2 * r) d with
    | lt =>
      have half : (r : ℚ) / d < 1 / 2 := by
        rw [div_lt_iff₀ positive]
        have : (2 : ℚ) * r < d := by exact_mod_cast Nat.compare_eq_lt.1 order
        linarith
      exact ⟨lt_add_of_pos_right _ excess, by simp only [ExtendedMantissa.ofMantissaAndAccuracy]; linarith⟩
    | eq =>
      have half : (r : ℚ) / d = 1 / 2 := by
        rw [div_eq_iff positive.ne']
        have : (2 : ℚ) * r = d := by exact_mod_cast Nat.compare_eq_eq.1 order
        linarith
      exact congrArg _ half
    | gt =>
      have half : 1 / 2 < (r : ℚ) / d := by
        rw [lt_div_iff₀ positive]
        have : (d : ℚ) < 2 * r := by exact_mod_cast Nat.compare_eq_gt.1 order
        linarith
      exact ⟨by simp only [ExtendedMantissa.ofMantissaAndAccuracy]; linarith,
        by simp only [ExtendedMantissa.ofMantissaAndAccuracy]; linarith⟩

theorem div_rounded (pos₁ : 0 < m₁) (pos₂ : 0 < m₂) : IsRounded (m₁ * 2 ^ e₁ / (m₂ * 2 ^ e₂))
    (div .binary64 (.finite .positive m₁ e₁ pos₁) (.finite .positive m₂ e₂ pos₂)) := by
  have nonzero : (m₂ : ℚ) ≠ 0 := by exact_mod_cast pos₂.ne'
  unfold div divCore
  dsimp only
  rw [targetExponent_eq, totalExponent, totalExponent]
  generalize place : min (e₁ - e₂) (max ((m₁.log2 : ℤ) + 1 + e₁ - (m₂.log2 + 1 + e₂) - 53) (-1074)) = t
  have enough : t ≤ e₁ - e₂ := by omega
  generalize shift : (e₁ - e₂ - t).toNat = n
  apply roundWithAccuracy_rounded
  · have whole : (m₁ * 2 ^ e₁ / (m₂ * 2 ^ e₂) / 2 ^ t : ℚ) = (m₁ <<< n : ℕ) / m₂ := by
      have power : (2 : ℚ) ^ n = 2 ^ e₁ / 2 ^ e₂ / 2 ^ t := by
        rw [← zpow_natCast, ← shift, Int.toNat_of_nonneg (by omega), zpow_sub₀ (by norm_num), zpow_sub₀ (by norm_num)]
      rw [Nat.shiftLeft_eq, Nat.cast_mul, Nat.cast_pow, Nat.cast_ofNat, power]
      field_simp
    rw [whole]
    exact represents_quotient _ pos₂
  · rw [targetExponent_eq, totalExponent]
    rcases le_or_gt t (-1074) with least | normal
    · omega
    · have long : 2 ^ 52 ≤ m₁ <<< n / m₂ := by
        rw [Nat.le_div_iff_mul_le pos₂, Nat.shiftLeft_eq]
        calc 2 ^ 52 * m₂ ≤ 2 ^ 52 * 2 ^ (m₂.log2 + 1) := Nat.mul_le_mul_left _ Nat.lt_log2_self.le
          _ = 2 ^ (52 + (m₂.log2 + 1)) := (pow_add ..).symm
          _ ≤ 2 ^ (m₁.log2 + n) := Nat.pow_le_pow_right (by decide) (by omega)
          _ = 2 ^ m₁.log2 * 2 ^ n := pow_add ..
          _ ≤ m₁ * 2 ^ n := Nat.mul_le_mul_right _ (Nat.log2_self_le pos₁.ne')
      have digits := (Nat.le_log2 (by omega)).2 long
      omega

/-- For an exponent that is not positive the power of the greater base is the smaller one. -/
theorem zpow_le_zpow_of_nonpos {a b : ℚ} {k : ℤ} (pos : 0 < a) (le : a ≤ b) (sign : k ≤ 0) : b ^ k ≤ a ^ k := by
  have powers : a ^ (-k) ≤ b ^ (-k) := zpow_le_zpow_left₀ (by omega) pos.le le
  simpa only [zpow_neg, inv_inv] using inv_anti₀ (by positivity) powers

/-- Decimals whose exponents are so far off that their powers are not computed lie out of the range of numbers. -/
theorem decimal_overflow {c : ℕ} {e : ℤ} (nonzero : c ≠ 0) (large : 2048 < e) : (2 : ℚ) ^ (1024 : ℤ) ≤ c * 10 ^ e := by
  have one_le : (1 : ℚ) ≤ c := by exact_mod_cast Nat.pos_of_ne_zero nonzero
  calc (2 : ℚ) ^ (1024 : ℤ) ≤ 2 ^ e := zpow_le_zpow_right₀ (by norm_num) (by omega)
    _ ≤ 10 ^ e := zpow_le_zpow_left₀ (by omega) (by norm_num) (by norm_num)
    _ ≤ c * 10 ^ e := le_mul_of_one_le_left (by positivity) one_le

theorem decimal_underflow {c : ℕ} {e : ℤ} (small : e < -(2048 + c.log2)) : c * 10 ^ e ≤ (2 : ℚ) ^ (-1075 : ℤ) := by
  have digits : (c : ℚ) ≤ 2 ^ (c.log2 + 1) := by exact_mod_cast Nat.lt_log2_self.le
  calc (c : ℚ) * 10 ^ e ≤ 2 ^ (c.log2 + 1) * 2 ^ e := by
        have powers : (10 : ℚ) ^ e ≤ 2 ^ e := zpow_le_zpow_of_nonpos (by norm_num) (by norm_num) (by omega)
        exact mul_le_mul digits powers (by positivity) (by positivity)
    _ = 2 ^ (c.log2 + 1 + e) := by rw [zpow_add₀ (by norm_num)]; norm_cast
    _ ≤ 2 ^ (-1075 : ℤ) := zpow_le_zpow_right₀ (by norm_num) (by omega)

theorem overflow_le : overflow ≤ 2 ^ (1024 : ℤ) := by
  rw [overflow, show (1024 : ℤ) = 53 + 971 by rfl, zpow_add₀ (by norm_num)]
  exact mul_le_mul_of_nonneg_right (by norm_num) (by positivity)

/-- Up to half the least number other than zero is rounded to zero. -/
theorem near_zero {v : ℚ} (nonnegative : 0 ≤ v) (tiny : v ≤ 2 ^ (-1075 : ℤ)) : Near 0 (-1074) v := by
  have scaled : (2 : ℚ) ^ (-1075 : ℤ) = 1 / 2 * 2 ^ (-1074 : ℤ) := by
    rw [show (-1075 : ℤ) = -1074 - 1 by rfl, zpow_sub_one₀ (by norm_num)]
    ring
  rw [scaled] at tiny
  have unit : (0 : ℚ) < 2 ^ (-1074 : ℤ) := by positivity
  rw [Near, if_pos rfl, reach, if_neg (by decide), le_div_iff₀ unit, div_le_iff₀ unit, Nat.cast_zero]
  generalize (2 : ℚ) ^ (-1074 : ℤ) = least at *
  constructor <;> linarith

/-- Decimals are computed to the last place. -/
theorem ofScientific_rounded (c : ℕ) (e : ℤ) :
    IsRounded (c * 10 ^ e) (Float.Model.UnpackedFloat.ofScientific .binary64 c e) := by
  unfold Float.Model.UnpackedFloat.ofScientific
  split
  · rename_i zero
    subst zero
    rw [Nat.cast_zero, zero_mul]
    exact near_zero le_rfl (by positivity)
  rename_i nonzero
  split
  · rename_i large
    exact overflow_le.trans (decimal_overflow nonzero large)
  split
  · rename_i small
    exact near_zero (by positivity) (decimal_underflow small)
  split
  · have same : ((c <<< 53 : ℕ) : ℚ) * 2 ^ (-(53 : ℕ) : ℤ) * ((10 ^ e.toNat : ℕ) * 2 ^ (0 : ℤ)) = c * 10 ^ e := by
      have whole : (10 : ℚ) ^ e = (10 ^ e.toNat : ℕ) := by
        rw [Nat.cast_pow, ← zpow_natCast, Int.toNat_of_nonneg ‹0 ≤ e›, Nat.cast_ofNat]
      rw [whole, Nat.shiftLeft_eq, zpow_neg, zpow_natCast]
      push_cast
      field_simp
      norm_num
    rw [← same]
    apply mul_rounded
    rw [Nat.shiftLeft_eq]
    have positive : 0 < c * 10 ^ e.toNat := Nat.mul_pos (Nat.pos_of_ne_zero nonzero) (Nat.pow_pos (by decide))
    calc 2 ^ 52 ≤ 1 * 2 ^ 53 := by decide
      _ ≤ c * 10 ^ e.toNat * 2 ^ 53 := Nat.mul_le_mul_right _ positive
      _ = c * 2 ^ 53 * 10 ^ e.toNat := Nat.mul_right_comm ..
  · have same : ((c : ℚ) * 2 ^ (0 : ℤ) / ((10 ^ (-e).toNat : ℕ) * 2 ^ (0 : ℤ))) = c * 10 ^ e := by
      rw [Nat.cast_pow, ← zpow_natCast, Int.toNat_of_nonneg (by omega), zpow_neg, zpow_zero, Nat.cast_ofNat]
      field_simp
    rw [← same]
    exact div_rounded ..

end Operations

theorem near_self (m : ℕ) (q : ℤ) : Near m q (m * 2 ^ q) := by
  have below := reach_pos m q
  rw [Near, mul_div_cancel_right₀ _ (by positivity)]
  split <;> constructor <;> linarith

theorem contains_self {m : ℕ} (pos : 0 < m) (q : ℤ) : (RoundingInterval.of m q).Contains (m * 2 ^ q) :=
  (contains_iff pos q _).2 (near_self m q)

theorem unpack_of_exact {x : Float} {m : ℕ} {q : ℤ} (content : exact x = .finite false m q) (pos : 0 < m) :
    x.toModel.unpack = .finite .positive m q pos := by
  rw [exact_eq_ofUnpacked] at content
  cases run : x.toModel.unpack with
  | finite sign n r pos' =>
    rw [run] at content
    obtain ⟨positive, rfl, rfl⟩ := Exact.finite.inj content
    cases sign
    · cases positive
    · rfl
  | zero sign =>
    rw [run] at content
    exact absurd (Exact.finite.inj content).2.1 pos.ne
  | _ =>
    rw [run] at content
    cases content

/-- The content of a natural number with all bits of the significand. -/
def Exact.isNatural (n : ℕ) : Exact → Bool
  | .finite false m q => decide (2 ^ 52 ≤ m) && m * 2 ^ q.toNat == n * 2 ^ (-q).toNat
  | _ => false

theorem isNatural_powersOfTen (e : Fin 23) :
    (exact Float.exactlyRepresentablePowersOfTen[e]).isNatural (10 ^ e.val) = true := by
  revert e
  decide +kernel

/-- Shifted up until all bits of the significand count. -/
theorem scaled_bounds {n : ℕ} (pos : 0 < n) (small : n < 2 ^ 53) :
    2 ^ 52 ≤ n * 2 ^ (52 - n.log2) ∧ n * 2 ^ (52 - n.log2) < 2 ^ 53 := by
  have digits : n.log2 ≤ 52 := Nat.le_of_lt_succ ((Nat.log2_lt pos.ne').2 small)
  constructor
  · calc 2 ^ 52 = 2 ^ n.log2 * 2 ^ (52 - n.log2) := by rw [← pow_add]; congr 1; omega
      _ ≤ n * 2 ^ (52 - n.log2) := Nat.mul_le_mul_right _ (Nat.log2_self_le pos.ne')
  · calc n * 2 ^ (52 - n.log2) < 2 ^ (n.log2 + 1) * 2 ^ (52 - n.log2) :=
          Nat.mul_lt_mul_of_pos_right Nat.lt_log2_self (Nat.two_pow_pos _)
      _ = 2 ^ 53 := by rw [← pow_add]; congr 1; omega

/-- Natural numbers are rounded as well. -/
theorem ofNat_rounded {n : ℕ} (pos : 0 < n) (small : n < 2 ^ 53) :
    IsRounded n (Float.Model.UnpackedFloat.ofNat .binary64 n) := by
  have digits : n.log2 ≤ 52 := Nat.le_of_lt_succ ((Nat.log2_lt pos.ne').2 small)
  have positive : compare (n : ℤ) 0 = .gt := compare_gt_iff_gt.2 (by omega)
  have target : Format.binary64.targetExponent (totalExponent n 0) = -(52 - n.log2 : ℕ) := by
    rw [targetExponent_eq, totalExponent]
    omega
  have shift : (0 - (-(52 - n.log2 : ℕ) : ℤ)).toNat = 52 - n.log2 := by omega
  unfold Float.Model.UnpackedFloat.ofNat Float.Model.UnpackedFloat.ofInt Float.Model.UnpackedFloat.normalize
  rw [positive]
  dsimp only
  unfold Float.Model.UnpackedFloat.round decreaseExponent
  rw [Int.toNat_natCast, target]
  dsimp only
  rw [shift, zero_sub, Nat.shiftLeft_eq]
  apply roundWithAccuracy_rounded
  · change (n / 2 ^ (-(52 - n.log2 : ℕ) : ℤ) : ℚ) = (n * 2 ^ (52 - n.log2) : ℕ)
    rw [zpow_neg, div_inv_eq_mul, zpow_natCast]
    push_cast
    rfl
  · obtain ⟨long, short⟩ := scaled_bounds pos small
    have whole : (n * 2 ^ (52 - n.log2)).log2 = 52 := (Nat.log2_eq_iff (by omega)).2 ⟨long, short⟩
    rw [targetExponent_eq, totalExponent]
    omega

theorem isNatural_toFloat {n : ℕ} (pos : 0 < n) (small : n < 2 ^ 53) :
    (exact n.toUInt64.toFloat).isNatural n = true := by
  obtain ⟨long, short⟩ := scaled_bounds pos small
  have whole : n.toUInt64.toNat = n := Nat.mod_eq_of_lt (by omega)
  have nearest : IsNearest n n.toUInt64.toFloat := by
    change IsNearest n (.ofModel (.pack (Float.Model.UnpackedFloat.ofNat .binary64 n.toUInt64.toNat)))
    rw [whole]
    exact (ofNat_rounded pos small).isNearest
  have scaled : (n : ℚ) = (n * 2 ^ (52 - n.log2) : ℕ) * 2 ^ (-(52 - n.log2 : ℕ) : ℤ) := by
    rw [zpow_neg, zpow_natCast]
    push_cast
    field_simp
  have content : exact n.toUInt64.toFloat = .finite false (n * 2 ^ (52 - n.log2)) (-(52 - n.log2 : ℕ)) := by
    refine nearest.exact_eq ⟨short, by omega, by omega, .inl long⟩ ?_
    rw [scaled]
    exact near_self _ _
  rw [content, Exact.isNatural, Int.toNat_eq_zero.2 (by omega), neg_neg, Int.toNat_natCast]
  simpa using long

/-- What `isNatural` says. -/
theorem Exact.of_isNatural {x : Float} {n : ℕ} (natural : (exact x).isNatural n = true) :
    ∃ m q, ∃ pos : 0 < m, x.toModel.unpack = .finite .positive m q pos ∧ 2 ^ 52 ≤ m ∧ (m : ℚ) * 2 ^ q = n := by
  unfold Exact.isNatural at natural
  split at natural
  · rename_i m q content
    rw [Bool.and_eq_true, decide_eq_true_eq, beq_iff_eq] at natural
    have pos : 0 < m := by omega
    refine ⟨m, q, pos, unpack_of_exact content pos, natural.1, ?_⟩
    have scaled : (m : ℚ) * 2 ^ q.toNat = n * 2 ^ (-q).toNat := by exact_mod_cast natural.2
    have split : (2 : ℚ) ^ q * 2 ^ (-q).toNat = 2 ^ q.toNat := by
      rw [← zpow_natCast, ← zpow_natCast, ← zpow_add₀ (by norm_num)]
      congr 1
      omega
    have power : (2 : ℚ) ^ (-q).toNat ≠ 0 := by positivity
    rw [← split, ← mul_assoc] at scaled
    exact mul_right_cancel₀ power scaled
  · cases natural

section Products

variable {x y : Float} {a b : ℕ}

theorem isNearest_mul (left : (exact x).isNatural a = true) (right : (exact y).isNatural b = true) :
    IsNearest (a * b) (x * y) := by
  obtain ⟨m₁, e₁, pos₁, content₁, long₁, value₁⟩ := Exact.of_isNatural left
  obtain ⟨m₂, e₂, pos₂, content₂, long₂, value₂⟩ := Exact.of_isNatural right
  change IsNearest _ (.ofModel (.pack (mul .binary64 x.toModel.unpack y.toModel.unpack)))
  rw [content₁, content₂, ← value₁, ← value₂]
  exact (mul_rounded pos₁ pos₂ (by nlinarith)).isNearest

theorem isNearest_div (left : (exact x).isNatural a = true) (right : (exact y).isNatural b = true) :
    IsNearest (a / b) (x / y) := by
  obtain ⟨m₁, e₁, pos₁, content₁, -, value₁⟩ := Exact.of_isNatural left
  obtain ⟨m₂, e₂, pos₂, content₂, -, value₂⟩ := Exact.of_isNatural right
  change IsNearest _ (.ofModel (.pack (div .binary64 x.toModel.unpack y.toModel.unpack)))
  rw [content₁, content₂, ← value₁, ← value₂]
  exact (div_rounded pos₁ pos₂).isNearest

/-- Zero stays zero. -/
theorem isNearest_zero_mul (empty : x.toModel.unpack = .zero .positive) (right : (exact y).isNatural b = true) :
    IsNearest 0 (x * y) ∧ IsNearest 0 (x / y) := by
  obtain ⟨m₂, e₂, pos₂, content₂, -, -⟩ := Exact.of_isNatural right
  have product : mul .binary64 (.zero .positive) (.finite .positive m₂ e₂ pos₂) = .zero .positive := rfl
  have quotient : div .binary64 (.zero .positive) (.finite .positive m₂ e₂ pos₂) = .zero .positive := rfl
  have rounded : IsRounded 0 (.zero .positive) := near_zero le_rfl (by positivity)
  constructor
  · change IsNearest _ (.ofModel (.pack (mul .binary64 x.toModel.unpack y.toModel.unpack)))
    rw [empty, content₂, product]
    exact rounded.isNearest
  · change IsNearest _ (.ofModel (.pack (div .binary64 x.toModel.unpack y.toModel.unpack)))
    rw [empty, content₂, quotient]
    exact rounded.isNearest

end Products

theorem unpack_toFloat_zero : ((0 : ℕ).toUInt64.toFloat).toModel.unpack = .zero .positive :=
  ofUnpacked_injective ((exact_eq_ofUnpacked _).symm.trans (by decide +kernel))

/-- A decimal is read as the nearest number. -/
theorem isNearest_ofScientific (c : ℕ) (down : Bool) (e : ℕ) :
    IsNearest (c * 10 ^ (if down then -(e : ℤ) else e)) (Float.ofScientific c down e) := by
  unfold Float.ofScientific
  by_cases small : c < 2 ^ 53 ∧ e ≤ 22
  · rw [dif_pos small]
    have power := isNatural_powersOfTen ⟨e, Nat.lt_succ_of_le small.2⟩
    rw [Fin.getElem_fin] at power
    rcases c.eq_zero_or_pos with rfl | pos
    · rw [Nat.cast_zero, zero_mul]
      cases down with
      | false => exact (isNearest_zero_mul unpack_toFloat_zero power).1
      | true => exact (isNearest_zero_mul unpack_toFloat_zero power).2
    · cases down with
      | false =>
        have nearest := isNearest_mul (isNatural_toFloat pos small.1) power
        rw [Nat.cast_pow, Nat.cast_ofNat, ← zpow_natCast] at nearest
        exact nearest
      | true =>
        have nearest := isNearest_div (isNatural_toFloat pos small.1) power
        rw [Nat.cast_pow, Nat.cast_ofNat, ← zpow_natCast, div_eq_mul_inv, ← zpow_neg] at nearest
        exact nearest
  · have exponent : (if down then Int.negOfNat e else Int.ofNat e) = if down then -(e : ℤ) else e := by
      cases down
      · rfl
      · exact Int.negOfNat_eq
    rw [dif_neg small]
    dsimp only
    rw [exponent]
    exact (ofScientific_rounded ..).isNearest

theorem isNearest_ofNat (n : ℕ) : IsNearest n (Float.ofNat n) := by
  have nearest := isNearest_ofScientific n false 0
  rwa [if_neg Bool.false_ne_true, Nat.cast_zero, zpow_zero, mul_one] at nearest

section Interval

variable {m : ℕ} {q : ℤ} {v : ℚ}

theorem RoundingInterval.Contains.range (canonical : IsCanonical m q) (pos : 0 < m)
    (inside : (RoundingInterval.of m q).Contains v) : (2 : ℚ) ^ (-1075 : ℤ) ≤ v ∧ v < (2 : ℚ) ^ (1024 : ℤ) := by
  have near := (contains_iff pos q v).1 inside
  constructor
  · by_contra! tiny
    have one_le : (1 : ℚ) ≤ m := by exact_mod_cast pos
    have half := reach_le m q
    have low := near.bounds.1
    rw [le_div_iff₀ (by positivity)] at low
    have least : (2 : ℚ) ^ (-1075 : ℤ) ≤ (m - reach m q) * 2 ^ q :=
      calc (2 : ℚ) ^ (-1075 : ℤ) ≤ 2 ^ (q - 1) := zpow_le_zpow_right₀ (by norm_num) (by have := canonical.least; omega)
        _ = 1 / 2 * 2 ^ q := by rw [zpow_sub_one₀ (by norm_num)]; ring
        _ ≤ (m - reach m q) * 2 ^ q := mul_le_mul_of_nonneg_right (by linarith) (by positivity)
    exact absurd (least.trans low) (not_le.2 tiny)
  · refine lt_of_lt_of_le (not_le.1 fun large => ?_) overflow_le
    exact absurd ((near.overflow_le_iff canonical.placed).1 large) (not_lt.2 canonical.greatest)

theorem RoundingInterval.Contains.coefficient_pos {c : ℕ} {unit : ℚ} (canonical : IsCanonical m q) (pos : 0 < m)
    (inside : (RoundingInterval.of m q).Contains (c * unit)) : 0 < c := by
  refine Nat.pos_of_ne_zero ?_
  rintro rfl
  have low := (inside.range canonical pos).1
  rw [Nat.cast_zero, zero_mul] at low
  exact absurd low (not_le.2 (by positivity))

theorem powers_of_ten : (10 : ℚ) ^ (-400 : ℤ) < 2 ^ (-1075 : ℤ) ∧ (2 : ℚ) ^ (1024 : ℤ) < 10 ^ (400 : ℤ) := by
  have powers : (2 : ℚ) ^ 1075 < 10 ^ 400 := by exact_mod_cast (by decide +kernel : 2 ^ 1075 < 10 ^ 400)
  constructor
  · rw [zpow_neg, zpow_neg]
    exact inv_strictAnti₀ (by positivity) (by exact_mod_cast powers)
  · exact (zpow_lt_zpow_right₀ (by norm_num) (by norm_num)).trans (by exact_mod_cast powers : (2 : ℚ) ^ (1075 : ℤ) < _)

/-- How many digits stand before the point of a decimal in the interval of a number. -/
theorem RoundingInterval.Contains.magnitude (canonical : IsCanonical m q) (pos : 0 < m)
    (inside : (RoundingInterval.of m q).Contains v) {k : ℤ} (low : 10 ^ (k - 1) ≤ v) (high : v < 10 ^ k) :
    -400 < k ∧ k ≤ 400 := by
  obtain ⟨least, greatest⟩ := inside.range canonical pos
  obtain ⟨small, large⟩ := powers_of_ten
  have above := (zpow_lt_zpow_iff_right₀ (by norm_num)).1 (small.trans_le (least.trans high.le))
  have below := (zpow_lt_zpow_iff_right₀ (by norm_num)).1 ((low.trans_lt greatest).trans large)
  omega

end Interval

/-- The value of decimal digits in front of a power of ten, by the place of the first one that is not zero. -/
theorem digits_bounds {c : Char} {text : List Char} (digits : ∀ d ∈ c :: text, d.isDigit = true) (nonzero : c ≠ '0')
    (exponent : ℤ) : (10 : ℚ) ^ ((c :: text).length + exponent - 1) ≤ ofDecimalDigits (c :: text) * 10 ^ exponent ∧
      ofDecimalDigits (c :: text) * (10 : ℚ) ^ exponent < 10 ^ ((c :: text).length + exponent) := by
  rw [ofDecimalDigits_eq digits]
  have low := le_ofDigitChars (digits c List.mem_cons_self) nonzero text
  have high := ofDigitChars_lt digits 0
  rw [List.length_cons, Nat.cast_succ]
  constructor
  · rw [show ((text.length : ℤ) + 1 + exponent - 1) = text.length + exponent by ring, zpow_add₀ (by norm_num),
    zpow_natCast]
    exact mul_le_mul_of_nonneg_right (by exact_mod_cast low) (by positivity)
  · rw [zpow_add₀ (by norm_num)]
    rw [zero_add, one_mul] at high
    exact mul_lt_mul_of_pos_right (by exact_mod_cast high) (by positivity)

theorem isNearest_zero {v : ℚ} (nonnegative : 0 ≤ v) (tiny : v ≤ 2 ^ (-1075 : ℤ)) : IsNearest v 0.0 :=
  (near_zero nonnegative tiny).isNearest ⟨by decide, by decide, by decide, .inr rfl⟩ exact_zero

theorem exact_infinity : exact infinity = .infinite false := by decide +kernel

/-- Digits in front of a power of ten are read as the nearest number. -/
theorem isNearest_nearest {coefficient : List Char} (digits : ∀ c ∈ coefficient, c.isDigit = true) (exponent : ℤ) :
    IsNearest (ofDecimalDigits coefficient * 10 ^ exponent) (nearest coefficient exponent) := by
  have significant : ∀ c ∈ coefficient.dropWhile (· = '0'), c.isDigit = true :=
    fun c member => digits c ((List.dropWhile_sublist _).mem member)
  have value : ofDecimalDigits coefficient = ofDecimalDigits (coefficient.dropWhile (· = '0')) := by
    rw [ofDecimalDigits_eq digits, ofDecimalDigits_eq significant, ofDigitChars_dropWhile]
  rw [value]
  unfold nearest
  cases run : coefficient.dropWhile (· = '0') with
  | nil =>
    rw [show ofDecimalDigits [] = 0 by rfl, Nat.cast_zero, zero_mul]
    exact isNearest_zero le_rfl (by positivity)
  | cons c rest =>
    rw [run] at significant
    have nonzero : c ≠ '0' := by
      have := List.head_dropWhile_not (p := (· = '0')) (l := coefficient) (by simp [run])
      simpa [run] using this
    obtain ⟨low, high⟩ := digits_bounds significant nonzero exponent
    obtain ⟨small, large⟩ := powers_of_ten
    dsimp only
    split
    · rename_i tiny
      have tiny := tiny.resolve_left Bool.noConfusion
      exact isNearest_zero (by positivity)
        (high.le.trans ((zpow_le_zpow_right₀ (by norm_num) (by omega)).trans small.le))
    split
    · refine (isNearest_of_infinite exact_infinity).2 (overflow_le.trans (large.le.trans ?_))
      exact (zpow_le_zpow_right₀ (by norm_num) (by omega)).trans low
    · have sign : (if decide (exponent < 0) = true then -(exponent.natAbs : ℤ) else exponent.natAbs) = exponent := by
        simp only [decide_eq_true_eq]
        split <;> omega
      have nearest := isNearest_ofScientific (ofDecimalDigits (c :: rest)) (exponent < 0) exponent.natAbs
      rwa [sign] at nearest

/-- As a decimal in the interval of a number is read. -/
theorem exact_nearest {m : ℕ} {q : ℤ} (canonical : IsCanonical m q) (pos : 0 < m) {coefficient : List Char}
    {exponent : ℤ} (digits : ∀ c ∈ coefficient, c.isDigit = true)
    (inside : (RoundingInterval.of m q).Contains (ofDecimalDigits coefficient * 10 ^ exponent)) :
    exact (nearest coefficient exponent) = .finite false m q :=
  (isNearest_nearest digits exponent).exact_eq canonical ((contains_iff pos ..).1 inside)

/-- A natural number with the content of a number is read as that number. -/
theorem exact_ofNat {m : ℕ} {q : ℤ} (canonical : IsCanonical m q) {n : ℕ} (value : (n : ℚ) = m * 2 ^ q) :
    exact (Float.ofNat n) = .finite false m q := by
  refine (isNearest_ofNat n).exact_eq canonical ?_
  rw [value]
  exact near_self m q

theorem twoTo_cast (n : ℕ) : ((twoTo n : ℕ) : ℚ) = 2 ^ n := by
  unfold twoTo
  exact_mod_cast rfl

theorem cast_div_twoTo {m : ℕ} {q : ℤ} (sign : q ≤ 0) (whole : m % twoTo (-q).toNat = 0) :
    ((m / twoTo (-q).toNat : ℕ) : ℚ) = m * 2 ^ q := by
  rw [Nat.cast_div (Nat.dvd_of_mod_eq_zero whole) (by rw [twoTo_cast]; positivity), twoTo_cast, ← zpow_natCast,
    Int.toNat_of_nonneg (by omega), zpow_neg, div_inv_eq_mul]

/-- The integer part of a whole number is its value. -/
theorem wholePart_eq {m : ℕ} {q : ℤ} (whole : 0 ≤ q ∨ m % twoTo (-q).toNat = 0) :
    ((if 0 ≤ q then m * twoTo q.toNat else m / twoTo (-q).toNat : ℕ) : ℚ) = m * 2 ^ q := by
  split
  · rw [Nat.cast_mul, twoTo_cast, ← zpow_natCast, Int.toNat_of_nonneg ‹_›]
  · exact cast_div_twoTo (by omega) (whole.resolve_left ‹_›)

/-- A whole number other than zero is the one nearest to its integer. -/
theorem ofInt_toInt? {x : Float} {negative : Bool} {m : ℕ} {q : ℤ} (content : exact x = .finite negative m q)
    (pos : 0 < m) (whole : isWhole x = true) : ofInt ((toInt? x).getD 0) = x := by
  rw [isWhole, content] at whole
  dsimp only at whole
  rw [Bool.or_eq_true, decide_eq_true_eq, beq_iff_eq] at whole
  have value := wholePart_eq whole
  rw [toInt?, content]
  dsimp only
  rw [Option.getD_some, ← Nat.cast_ite]
  generalize (if 0 ≤ q then m * twoTo q.toNat else m / twoTo (-q).toNat : ℕ) = n at value
  have positive : 0 < n := by
    have : (0 : ℚ) < n := by
      rw [value]
      positivity
    exact_mod_cast this
  have size : exact (Float.ofNat n) = .finite false m q := exact_ofNat (isCanonical_of_exact content) value
  apply exact_injective
  rw [content]
  cases negative with
  | false =>
    have sign : decide ((n : ℤ) < 0) = false := by simp
    rw [if_neg Bool.false_ne_true, ofInt, sign, Int.natAbs_natCast]
    exact size
  | true =>
    have sign : decide (-(n : ℤ) < 0) = true := by simpa using positive
    rw [if_pos rfl, ofInt, sign, Int.natAbs_neg, Int.natAbs_natCast]
    exact exact_withSign size true

end Reckoner.Number
