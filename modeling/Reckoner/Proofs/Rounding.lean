import Reckoner.Number.Shortest
import Reckoner.Proofs.Binary64

namespace Reckoner.Number

open Float.Model (UnpackedFloat Format totalExponent)
open Float.Model.UnpackedFloat

/-- A number lies in the interval. -/
def RoundingInterval.Contains (interval : RoundingInterval) (v : ℚ) : Prop :=
  if interval.closed then interval.low * 2 ^ interval.exponent ≤ v ∧ v ≤ interval.high * 2 ^ interval.exponent
  else interval.low * 2 ^ interval.exponent < v ∧ v < interval.high * 2 ^ interval.exponent

/-- The whole number next to a number, of two the even one. -/
def RoundsTo (y : ℚ) (r : ℕ) : Prop :=
  r - 1 / 2 < y ∧ y < r + 1 / 2 ∨ r % 2 = 0 ∧ r - 1 / 2 ≤ y ∧ y ≤ r + 1 / 2

/-- The bits behind the mantissa say where between two whole numbers a number lies. -/
def Represents (e : ExtendedMantissa) (y : ℚ) : Prop :=
  match e.roundBit, e.stickyBit with
  | false, false => y = e.mantissa
  | false, true => e.mantissa < y ∧ y < e.mantissa + 1 / 2
  | true, false => y = e.mantissa + 1 / 2
  | true, true => e.mantissa + 1 / 2 < y ∧ y < e.mantissa + 1

theorem Represents.bounds {e : ExtendedMantissa} {y : ℚ} (holds : Represents e y) :
    e.mantissa ≤ y ∧ y < e.mantissa + 1 := by
  rcases e with ⟨m, _ | _, _ | _⟩ <;> simp only [Represents] at holds <;> constructor <;> linarith

theorem Represents.shiftRightOne {e : ExtendedMantissa} {y : ℚ} (holds : Represents e y) :
    Represents e.shiftRightOne (y / 2) := by
  rcases e with ⟨m, r, s⟩
  have halves : (m : ℚ) = 2 * (m / 2 : ℕ) + (m % 2 : ℕ) := by exact_mod_cast (Nat.div_add_mod m 2).symm
  rcases Nat.mod_two_eq_zero_or_one m with parity | parity <;> rw [parity] at halves <;>
    rcases r with _ | _ <;> rcases s with _ | _ <;>
    simp only [Represents, ExtendedMantissa.shiftRightOne, parity, bne_self_eq_false, Bool.or_false,
      Bool.or_true] at holds ⊢ <;>
    push_cast at * <;> first | linarith | (constructor <;> linarith)

theorem Represents.shiftRight {e : ExtendedMantissa} {y : ℚ} (holds : Represents e y) (n : ℕ) :
    Represents (e >>> n) (y / 2 ^ n) := by
  change Represents (n.repeat _ e) _
  induction n with
  | zero =>
    rw [pow_zero, div_one]
    exact holds
  | succ n ih =>
    rw [pow_succ, ← div_div]
    exact ih.shiftRightOne

theorem RoundsTo.bounds {y : ℚ} {r : ℕ} (near : RoundsTo y r) : r - 1 / 2 ≤ y ∧ y ≤ r + 1 / 2 := by
  rcases near with ⟨left, right⟩ | ⟨_, left, right⟩ <;> constructor <;> linarith

/-- The bits behind the mantissa decide how it is rounded. -/
theorem Represents.roundsTo {e : ExtendedMantissa} {y : ℚ} (holds : Represents e y) : RoundsTo y e.roundedMantissa := by
  rcases e with ⟨m, _ | _, _ | _⟩ <;> simp only [Represents] at holds
  · change RoundsTo y m
    exact .inl ⟨by linarith, by linarith⟩
  · change RoundsTo y m
    exact .inl ⟨by linarith, by linarith⟩
  · change RoundsTo y (m + m % 2)
    rcases Nat.mod_two_eq_zero_or_one m with parity | parity <;> rw [parity]
    · exact .inr ⟨parity, by push_cast; linarith, by push_cast; linarith⟩
    · exact .inr ⟨by omega, by push_cast; linarith, by push_cast; linarith⟩
  · change RoundsTo y (m + 1)
    exact .inl ⟨by push_cast; linarith, by push_cast; linarith⟩

/-- How far the lower end of the interval is away, in units of the last place. -/
def reach (m : ℕ) (q : ℤ) : ℚ := if m = 2 ^ 52 ∧ -1074 < q then 1 / 4 else 1 / 2

theorem low_eq {m : ℕ} (pos : 0 < m) (q : ℤ) : ((RoundingInterval.of m q).low : ℚ) = 4 * (m - reach m q) := by
  have power : twoTo 52 = 2 ^ 52 := rfl
  unfold RoundingInterval.of reach
  dsimp only
  rw [power]
  split_ifs <;> rw [Nat.cast_sub (by omega)] <;> push_cast <;> ring

theorem reach_le (m : ℕ) (q : ℤ) : reach m q ≤ 1 / 2 := by unfold reach; split <;> norm_num

theorem reach_pos (m : ℕ) (q : ℤ) : 0 < reach m q := by unfold reach; split <;> norm_num

/-- The numbers that are rounded to a number: they reach half way to its neighbours, and up to there if its significand
is even. -/
def Near (m : ℕ) (q : ℤ) (v : ℚ) : Prop :=
  if m % 2 = 0 then m - reach m q ≤ v / 2 ^ q ∧ v / 2 ^ q ≤ m + 1 / 2
  else m - reach m q < v / 2 ^ q ∧ v / 2 ^ q < m + 1 / 2

theorem contains_iff {m : ℕ} (pos : 0 < m) (q : ℤ) (v : ℚ) : (RoundingInterval.of m q).Contains v ↔ Near m q v := by
  have unit : (0 : ℚ) < 2 ^ q := by positivity
  have place : (2 : ℚ) ^ (RoundingInterval.of m q).exponent = 2 ^ q / 4 := by
    change (2 : ℚ) ^ (q - 2) = _
    rw [zpow_sub₀ (by norm_num)]
    norm_num
  have low : ((RoundingInterval.of m q).low : ℚ) * (2 ^ q / 4) = (m - reach m q) * 2 ^ q := by
    rw [low_eq pos]
    ring
  have high : ((RoundingInterval.of m q).high : ℚ) * (2 ^ q / 4) = (m + 1 / 2) * 2 ^ q := by
    change ((4 * m + 2 : ℕ) : ℚ) * _ = _
    push_cast
    ring
  have closed : (RoundingInterval.of m q).closed = true ↔ m % 2 = 0 := beq_iff_eq
  simp only [RoundingInterval.Contains, Near, closed, place, low, high, le_div_iff₀ unit, div_le_iff₀ unit,
    lt_div_iff₀ unit, div_lt_iff₀ unit]

theorem Near.bounds {m : ℕ} {q : ℤ} {v : ℚ} (near : Near m q v) :
    m - reach m q ≤ v / 2 ^ q ∧ v / 2 ^ q ≤ m + 1 / 2 := by
  unfold Near at near
  split at near
  · exact near
  · exact ⟨near.1.le, near.2.le⟩

theorem Near.bounds_of_odd {m : ℕ} {q : ℤ} {v : ℚ} (near : Near m q v) (odd : ¬m % 2 = 0) :
    m - reach m q < v / 2 ^ q ∧ v / 2 ^ q < m + 1 / 2 := by
  rwa [Near, if_neg odd] at near

/-- Significands and exponents as rounding leaves them. The exponent may be too large for a finite number. -/
structure IsPlaced (m : ℕ) (q : ℤ) : Prop where
  small : m < 2 ^ 53
  least : -1074 ≤ q
  full : 2 ^ 52 ≤ m ∨ q = -1074

theorem IsCanonical.placed {m : ℕ} {q : ℤ} (canonical : IsCanonical m q) : IsPlaced m q :=
  ⟨canonical.small, canonical.least, canonical.full⟩

theorem IsPlaced.canonical {m : ℕ} {q : ℤ} (placed : IsPlaced m q) (greatest : q ≤ 971) : IsCanonical m q :=
  ⟨placed.small, placed.least, greatest, placed.full⟩

section Scaled

variable {v : ℚ} {t : ℤ} {r : ℕ}

theorem RoundsTo.placed (rounded : RoundsTo (v / 2 ^ t) r) (least : -1074 ≤ t) (full : t = -1074 ∨ 2 ^ 52 ≤ v / 2 ^ t)
    (small : r < 2 ^ 53) : IsPlaced r t := by
  refine ⟨small, least, full.symm.imp_left fun large => ?_⟩
  have high : (2 : ℚ) ^ 52 < r + 1 := by linarith [rounded.bounds.2]
  norm_cast at high
  omega

/-- The nearest significand in units of one exponent is near in units of all. Below a power of two the numbers lie
closer together, but the number that is rounded is not below it. -/
theorem RoundsTo.near (rounded : RoundsTo (v / 2 ^ t) r) (full : t = -1074 ∨ 2 ^ 52 ≤ v / 2 ^ t) : Near r t v := by
  unfold Near reach
  by_cases lowest : r = 2 ^ 52 ∧ -1074 < t
  · obtain ⟨rfl, normal⟩ := lowest
    have large := full.resolve_left normal.ne'
    have high := rounded.bounds.2
    rw [if_pos (by decide), if_pos ⟨rfl, normal⟩]
    exact ⟨by push_cast; linarith, high⟩
  · rw [if_neg lowest]
    split
    · exact rounded.bounds
    · exact rounded.resolve_right fun even => absurd even.1 ‹_›

/-- Rounding may carry into a digit more. -/
theorem RoundsTo.near_carried (rounded : RoundsTo (v / 2 ^ t) (2 ^ 53)) (least : -1074 ≤ t)
    (small : v / 2 ^ t < 2 ^ 53) : Near (2 ^ 52) (t + 1) v := by
  have low := rounded.bounds.1
  have half : v / 2 ^ (t + 1) = v / 2 ^ t / 2 := by rw [zpow_add_one₀ (by norm_num), div_div]
  rw [Near, if_pos (by decide), reach, if_pos ⟨rfl, by omega⟩, half]
  push_cast at low ⊢
  constructor <;> linarith

end Scaled

theorem targetExponent_eq (k : ℤ) : Format.binary64.targetExponent k = max (k - 53) (-1074) := rfl

/-- Whole numbers of at most 53 digits stay as they are, but for `2 ^ 53` itself. -/
theorem shiftToTargetExponent_exact {r m : ℕ} {t q : ℤ} (least : -1074 ≤ t)
    (final : q = t ∧ r = m ∧ m < 2 ^ 53 ∨ q = t + 1 ∧ r = 2 ^ 53 ∧ m = 2 ^ 52) :
    (shiftToTargetExponent .binary64 r t .exact).1.mantissa = m ∧
      (shiftToTargetExponent .binary64 r t .exact).2 = q := by
  unfold shiftToTargetExponent shiftToExponent
  rw [targetExponent_eq, totalExponent]
  rcases final with ⟨rfl, rfl, short⟩ | ⟨rfl, rfl, rfl⟩
  · have digits : r.log2 ≤ 52 := by
      rcases r.eq_zero_or_pos with rfl | pos
      · decide
      · have := (Nat.log2_lt pos.ne').2 short
        omega
    have noShift : (max ((r.log2 : ℤ) + 1 + q - 53) (-1074) - q).toNat = 0 := by omega
    dsimp only
    rw [noShift]
    exact ⟨rfl, by simp⟩
  · have digits : (2 ^ 53).log2 = 53 := by decide +kernel
    have one : (max (((2 ^ 53).log2 : ℤ) + 1 + t - 53) (-1074) - t).toNat = 1 := by
      rw [digits]
      omega
    dsimp only
    rw [one]
    exact ⟨rfl, rfl⟩

/-- The power of two above what a mantissa and the bits behind it stand for. -/
theorem Represents.totalExponent_bounds {mantissa : ℕ} {exponent : ℤ} {accuracy : Accuracy} {v : ℚ}
    (holds : Represents (.ofMantissaAndAccuracy mantissa accuracy) (v / 2 ^ exponent)) :
    v < 2 ^ totalExponent mantissa exponent ∧ (mantissa ≠ 0 → 2 ^ (totalExponent mantissa exponent - 1) ≤ v) := by
  have same : (ExtendedMantissa.ofMantissaAndAccuracy mantissa accuracy).mantissa = mantissa := by
    rcases accuracy with _ | (_ | _ | _) <;> rfl
  have unit : (0 : ℚ) < 2 ^ exponent := by positivity
  obtain ⟨low, high⟩ := holds.bounds
  rw [same] at low high
  rw [le_div_iff₀ unit] at low
  rw [div_lt_iff₀ unit] at high
  constructor
  · have digits : (mantissa : ℚ) + 1 ≤ 2 ^ (mantissa.log2 + 1) := by exact_mod_cast Nat.lt_log2_self
    rw [totalExponent, zpow_add₀ (by norm_num)]
    exact high.trans_le (mul_le_mul_of_nonneg_right (by exact_mod_cast digits) unit.le)
  · intro nonzero
    have digits : (2 : ℚ) ^ mantissa.log2 ≤ mantissa := by exact_mod_cast Nat.log2_self_le nonzero
    rw [totalExponent, show (mantissa.log2 : ℤ) + 1 + exponent - 1 = mantissa.log2 + exponent by ring,
      zpow_add₀ (by norm_num)]
    exact (mul_le_mul_of_nonneg_right (by exact_mod_cast digits) unit.le).trans low

section FirstShift

variable {mantissa : ℕ} {exponent : ℤ} {accuracy : Accuracy} {v : ℚ} {t : ℤ}

/-- The first shift goes to the place where the result ends. -/
theorem shiftToTargetExponent_eq (target : Format.binary64.targetExponent (totalExponent mantissa exponent) = t)
    (fine : exponent ≤ t) : shiftToTargetExponent .binary64 mantissa exponent accuracy =
      (ExtendedMantissa.ofMantissaAndAccuracy mantissa accuracy >>> (t - exponent).toNat, t) := by
  unfold shiftToTargetExponent shiftToExponent
  rw [target]
  dsimp only
  rw [Int.toNat_of_nonneg (by omega), add_sub_cancel]

theorem Represents.at_target (holds : Represents (.ofMantissaAndAccuracy mantissa accuracy) (v / 2 ^ exponent))
    (fine : exponent ≤ t) :
    Represents (ExtendedMantissa.ofMantissaAndAccuracy mantissa accuracy >>> (t - exponent).toNat) (v / 2 ^ t) := by
  have shifted := holds.shiftRight (t - exponent).toNat
  rwa [div_div, ← zpow_natCast, ← zpow_add₀ (by norm_num), Int.toNat_of_nonneg (by omega), add_sub_cancel] at shifted

/-- There it has at most 53 digits before the point, and 53 unless it is as far right as can be. -/
theorem Represents.digits_at_target (holds : Represents (.ofMantissaAndAccuracy mantissa accuracy) (v / 2 ^ exponent))
    (target : Format.binary64.targetExponent (totalExponent mantissa exponent) = t) (fine : exponent ≤ t) :
    v / 2 ^ t < 2 ^ 53 ∧ (t = -1074 ∨ 2 ^ 52 ≤ v / 2 ^ t) := by
  obtain ⟨small, large⟩ := holds.totalExponent_bounds
  rw [targetExponent_eq] at target
  constructor
  · rw [div_lt_iff₀ (by positivity), ← zpow_natCast, ← zpow_add₀ (by norm_num)]
    exact small.trans_le (zpow_le_zpow_right₀ (by norm_num) (by push_cast; omega))
  · rcases eq_or_ne t (-1074) with least | normal
    · exact .inl least
    · have nonzero : mantissa ≠ 0 := by
        rintro rfl
        rw [totalExponent, Nat.log2_zero] at target
        omega
      rw [le_div_iff₀ (by positivity), ← zpow_natCast, ← zpow_add₀ (by norm_num)]
      exact .inr ((zpow_le_zpow_right₀ (by norm_num) (by push_cast; omega)).trans (large nonzero))

end FirstShift

/-- Half way between the greatest finite number and the power of two behind it. -/
def overflow : ℚ := (2 ^ 53 - 1 / 2) * 2 ^ (971 : ℤ)

/-- An unpacked number is what a number that is not negative is rounded to. -/
def IsRounded (v : ℚ) : UnpackedFloat → Prop
  | .zero .positive => Near 0 (-1074) v
  | .finite .positive m q _ => IsPlaced m q ∧ Near m q v
  | .infinity .positive => overflow ≤ v
  | _ => False

/-- What a mantissa and the bits behind it stand for is rounded. The shift behind rounding has something to do only
where that carried into a digit more. -/
theorem roundWithAccuracy_rounded {mantissa : ℕ} {exponent : ℤ} {accuracy : Accuracy} {v : ℚ}
    (holds : Represents (.ofMantissaAndAccuracy mantissa accuracy) (v / 2 ^ exponent))
    (fine : exponent ≤ Format.binary64.targetExponent (totalExponent mantissa exponent)) :
    IsRounded v (roundWithAccuracy .binary64 .positive mantissa exponent accuracy) := by
  generalize target : Format.binary64.targetExponent (totalExponent mantissa exponent) = t at fine
  have least : -1074 ≤ t := by
    rw [targetExponent_eq] at target
    omega
  obtain ⟨short, full⟩ := holds.digits_at_target target fine
  have rounded := (holds.at_target fine).roundsTo
  unfold roundWithAccuracy
  rw [shiftToTargetExponent_eq target fine]
  dsimp only
  generalize (ExtendedMantissa.ofMantissaAndAccuracy mantissa accuracy >>> (t - exponent).toNat).roundedMantissa = r
    at rounded
  have bounded : r ≤ 2 ^ 53 := by
    have low : (r : ℚ) < 2 ^ 53 + 1 := by linarith [rounded.bounds.1]
    norm_cast at low
    omega
  rcases Nat.lt_or_eq_of_le bounded with small | rfl
  · obtain ⟨mantissaEq, exponentEq⟩ := shiftToTargetExponent_exact least (.inl ⟨rfl, rfl, small⟩)
    simp only [mantissaEq, exponentEq]
    split
    · rename_i zero
      subst zero
      obtain rfl : t = -1074 := (rounded.placed least full small).full.resolve_left (by decide)
      exact rounded.near full
    · exact ⟨rounded.placed least full small, rounded.near full⟩
  · obtain ⟨mantissaEq, exponentEq⟩ := shiftToTargetExponent_exact least (.inr ⟨rfl, rfl, rfl⟩)
    simp only [mantissaEq, exponentEq]
    exact ⟨⟨by decide, by omega, .inl le_rfl⟩, rounded.near_carried least short⟩

end Reckoner.Number
