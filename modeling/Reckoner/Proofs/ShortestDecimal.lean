import Reckoner.Proofs.NearestNumber

namespace Reckoner.Number

/-- The number that a decimal denotes. -/
def Decimal.value (d : Decimal) : ℚ := d.coefficient * 10 ^ d.exponent

theorem Decimal.value_trim (limit : ℕ) (d : Decimal) : (d.trim limit).value = d.value := by
  induction limit generalizing d with
  | zero => rfl
  | succ limit ih =>
    unfold trim
    split
    · rename_i tens
      rw [ih, value, value, zpow_add_one₀ (by norm_num)]
      have parts : (d.coefficient : ℚ) = 10 * (d.coefficient / 10 : ℕ) := by
        exact_mod_cast (Nat.mul_div_cancel' (Nat.dvd_of_mod_eq_zero tens)).symm
      rw [parts]
      ring
    · rfl

/-- A ratio of natural numbers for two powers. -/
structure IsRatio (ratio : ℕ × ℕ) (binary decimal : ℤ) : Prop where
  numerator : 0 < ratio.1
  denominator : 0 < ratio.2
  equal : (ratio.1 : ℚ) * 10 ^ decimal = ratio.2 * 2 ^ binary

theorem tenTo_cast (n : ℕ) : ((tenTo n : ℕ) : ℚ) = 10 ^ n := by
  unfold tenTo
  exact_mod_cast rfl

theorem isRatio_scaleRatio (binary decimal : ℤ) : IsRatio (scaleRatio binary decimal) binary decimal where
  numerator := Nat.mul_pos (Nat.pow_pos (by decide)) (Nat.pow_pos (by decide))
  denominator := Nat.mul_pos (Nat.pow_pos (by decide)) (Nat.pow_pos (by decide))
  equal := by
    have parts {base : ℚ} (nonzero : base ≠ 0) (k : ℤ) : base ^ k * base ^ (-k).toNat = base ^ k.toNat := by
      rw [← zpow_natCast, ← zpow_natCast, ← zpow_add₀ nonzero]
      congr 1
      omega
    unfold scaleRatio
    dsimp only
    rw [Nat.cast_mul, Nat.cast_mul, twoTo_cast, twoTo_cast, tenTo_cast, tenTo_cast,
      ← parts two_ne_zero binary, ← parts (by norm_num : (10 : ℚ) ≠ 0) decimal]
    ring

theorem IsRatio.le_iff {ratio : ℕ × ℕ} {binary decimal : ℤ} (scale : IsRatio ratio binary decimal) (a b : ℕ) :
    (a * 2 ^ binary ≤ b * (10 : ℚ) ^ decimal ↔ a * ratio.1 ≤ b * ratio.2) ∧
      (b * 10 ^ decimal ≤ a * (2 : ℚ) ^ binary ↔ b * ratio.2 ≤ a * ratio.1) := by
  have denominator : (0 : ℚ) < ratio.2 := by exact_mod_cast scale.denominator
  have place : (0 : ℚ) < 10 ^ decimal := by positivity
  have left : a * (2 : ℚ) ^ binary * ratio.2 = (a * ratio.1 : ℕ) * 10 ^ decimal := by
    rw [mul_assoc, mul_comm (2 ^ binary), ← scale.equal]
    push_cast
    ring
  have right : b * (10 : ℚ) ^ decimal * ratio.2 = (b * ratio.2 : ℕ) * 10 ^ decimal := by
    push_cast
    ring
  constructor
  · rw [← mul_le_mul_iff_left₀ denominator, left, right, mul_le_mul_iff_left₀ place, Nat.cast_le]
  · rw [← mul_le_mul_iff_left₀ denominator, left, right, mul_le_mul_iff_left₀ place, Nat.cast_le]

theorem IsRatio.coarser {ratio : ℕ × ℕ} {binary decimal : ℤ} (scale : IsRatio ratio binary decimal) (n : ℕ) :
    IsRatio (ratio.1, ratio.2 * tenTo n) binary (decimal + n) where
  numerator := scale.numerator
  denominator := Nat.mul_pos scale.denominator (Nat.pow_pos (by decide))
  equal := by
    dsimp only
    rw [zpow_add₀ (by norm_num), zpow_natCast, ← mul_assoc, scale.equal, Nat.cast_mul, tenTo_cast]
    ring

namespace RoundingInterval

/-- A point of the grid lies in the interval as a number. -/
theorem holds_iff (interval : RoundingInterval) {ratio : ℕ × ℕ} {decimal : ℤ}
    (scale : IsRatio ratio interval.exponent decimal) (d : ℕ) :
    interval.holds ratio d = true ↔ interval.Contains (d * 10 ^ decimal) := by
  unfold holds Contains
  dsimp only
  split
  · rw [Bool.and_eq_true, decide_eq_true_eq, decide_eq_true_eq, (scale.le_iff _ _).1, (scale.le_iff _ _).2]
  · rw [Bool.and_eq_true, decide_eq_true_eq, decide_eq_true_eq, ← not_le, ← not_le, ← not_le, ← not_le,
      (scale.le_iff _ _).1, (scale.le_iff _ _).2]

theorem holds_coarser (interval : RoundingInterval) (ratio : ℕ × ℕ) (n d : ℕ) :
    interval.holds (ratio.1, ratio.2 * tenTo n) d = interval.holds ratio (d * tenTo n) := by
  unfold holds
  dsimp only
  rw [← Nat.mul_assoc, Nat.mul_right_comm]

/-- The ends are what they are called. -/
theorem holds_iff_ends (interval : RoundingInterval) {ratio : ℕ × ℕ} (num : 0 < ratio.1) (den : 0 < ratio.2)
    (high : 0 < interval.high) (d : ℕ) :
    interval.holds ratio d = true ↔ (interval.ends ratio).1 ≤ d ∧ d ≤ (interval.ends ratio).2 := by
  have positive : 0 < interval.high * ratio.1 := Nat.mul_pos high num
  unfold holds ends
  dsimp only
  split
  · rw [Bool.and_eq_true, decide_eq_true_eq, decide_eq_true_eq, Nat.le_div_iff_mul_le den,
      Nat.div_le_iff_le_mul_add_pred den, Nat.mul_comm ratio.2]
    omega
  · rw [Bool.and_eq_true, decide_eq_true_eq, decide_eq_true_eq, Nat.le_div_iff_mul_le den, Nat.succ_le_iff,
      Nat.div_lt_iff_lt_mul den]
    omega

theorem holds_of_wide (interval : RoundingInterval) {ratio : ℕ × ℕ} (den : 0 < ratio.2)
    (wide : interval.low * ratio.1 + ratio.2 < interval.high * ratio.1) :
    interval.holds ratio (interval.low * ratio.1 / ratio.2 + 1) = true := by
  have left : interval.low * ratio.1 < (interval.low * ratio.1 / ratio.2 + 1) * ratio.2 :=
    (Nat.div_lt_iff_lt_mul den).1 (Nat.lt_succ_self _)
  have right : (interval.low * ratio.1 / ratio.2 + 1) * ratio.2 ≤ interval.low * ratio.1 + ratio.2 := by
    rw [Nat.add_mul, Nat.one_mul]
    exact Nat.add_le_add_right (Nat.div_mul_le_self ..) _
  unfold holds
  dsimp only
  split <;> rw [Bool.and_eq_true, decide_eq_true_eq, decide_eq_true_eq] <;> omega

/-- The interval has no gaps. -/
theorem holds_between (interval : RoundingInterval) {ratio : ℕ × ℕ} {d e : ℕ} (inside : interval.holds ratio d = true)
    (between : d * ratio.2 ≤ e * ratio.2 ∧ e * ratio.2 < interval.high * ratio.1 ∨
      e * ratio.2 ≤ d * ratio.2 ∧ interval.low * ratio.1 < e * ratio.2) : interval.holds ratio e = true := by
  unfold holds at inside ⊢
  dsimp only at inside ⊢
  split at inside <;> rw [Bool.and_eq_true, decide_eq_true_eq, decide_eq_true_eq] at inside
  · rw [if_pos ‹_›, Bool.and_eq_true, decide_eq_true_eq, decide_eq_true_eq]
    omega
  · rw [if_neg ‹_›, Bool.and_eq_true, decide_eq_true_eq, decide_eq_true_eq]
    omega

/-- Of the two neighbours of the middle one is chosen that lies in the interval. -/
theorem holds_choose (interval : RoundingInterval) (tie : Tie) {ratio : ℕ × ℕ} (num : 0 < ratio.1) (den : 0 < ratio.2)
    (low : interval.low < interval.middle) (high : interval.middle < interval.high) {d : ℕ}
    (inside : interval.holds ratio d = true) : interval.holds ratio (interval.choose tie ratio) = true := by
  have middleLow := Nat.mul_lt_mul_of_pos_right low num
  have middleHigh := Nat.mul_lt_mul_of_pos_right high num
  generalize run : interval.middle * ratio.1 = middle at *
  have below : middle / ratio.2 * ratio.2 ≤ middle := Nat.div_mul_le_self ..
  have above : middle < (middle / ratio.2 + 1) * ratio.2 := (Nat.div_lt_iff_lt_mul den).1 (Nat.lt_succ_self _)
  have either : interval.holds ratio (middle / ratio.2) = true ∨
      interval.holds ratio (middle / ratio.2 + 1) = true := by
    rcases Nat.lt_or_ge (middle / ratio.2) d with left | right
    · exact .inr (interval.holds_between inside (.inr ⟨Nat.mul_le_mul_right _ left, by omega⟩))
    · exact .inl (interval.holds_between inside (.inl ⟨Nat.mul_le_mul_right _ right, by omega⟩))
  have pick (upwards : Bool) (point : ℕ)
      (one : interval.holds ratio point = true ∨ interval.holds ratio (point + 1) = true) :
      let pair := if upwards then (point + 1, point) else (point, point + 1)
      interval.holds ratio (if interval.holds ratio pair.1 then pair.1 else pair.2) = true := by
    dsimp only
    cases upwards <;> simp only [Bool.false_eq_true, ↓reduceIte] <;> split
    · assumption
    · exact one.resolve_left ‹_›
    · assumption
    · exact one.resolve_right ‹_›
  unfold choose
  rw [run]
  exact pick _ _ either

end RoundingInterval

/-- Sparing digits leaves a point. -/
theorem exists_sparable (limit : ℕ) {first last : ℕ} (ordered : first ≤ last) :
    ∃ d, first ≤ d * tenTo (sparable first last limit) ∧ d * tenTo (sparable first last limit) ≤ last := by
  induction limit generalizing first last with
  | zero => exact ⟨first, by simp [sparable, tenTo], by simpa [sparable, tenTo] using ordered⟩
  | succ limit ih =>
    unfold sparable
    split
    · obtain ⟨d, low, high⟩ := ih ‹_›
      have tens (n : ℕ) : d * tenTo (n + 1) = d * tenTo n * 10 := (Nat.mul_assoc ..).symm
      exact ⟨d, by rw [tens]; omega, by rw [tens]; omega⟩
    · exact ⟨first, by simp [tenTo], by simpa [tenTo] using ordered⟩

/-- Powers of ten against powers of two, by two good approximations of the logarithm. -/
theorem ten_zpow_le {k n : ℤ} (less : 0 ≤ k ∧ 196 * k ≤ 59 * n ∨ k ≤ 0 ∧ 93 * k ≤ 28 * n) : (10 : ℚ) ^ k ≤ 2 ^ n := by
  rcases less with ⟨sign, less⟩ | ⟨sign, less⟩
  · rw [← pow_le_pow_iff_left₀ (by positivity) (by positivity) (by norm_num : 59 ≠ 0)]
    calc ((10 : ℚ) ^ k) ^ 59 = (10 ^ 59) ^ k := by rw [← zpow_natCast, zpow_comm, zpow_natCast]
      _ ≤ (2 ^ 196) ^ k := zpow_le_zpow_left₀ sign (by norm_num) (by norm_num)
      _ = 2 ^ (196 * k) := by rw [zpow_mul]; norm_cast
      _ ≤ 2 ^ (n * 59) := zpow_le_zpow_right₀ (by norm_num) (by omega)
      _ = (2 ^ n) ^ 59 := by rw [zpow_mul]; norm_cast
  · rw [← pow_le_pow_iff_left₀ (by positivity) (by positivity) (by norm_num : 28 ≠ 0)]
    calc ((10 : ℚ) ^ k) ^ 28 = (10 ^ 28) ^ k := by rw [← zpow_natCast, zpow_comm, zpow_natCast]
      _ ≤ (2 ^ 93) ^ k := zpow_le_zpow_of_nonpos (by norm_num) (by norm_num) sign
      _ = 2 ^ (93 * k) := by rw [zpow_mul]; norm_cast
      _ ≤ 2 ^ (n * 28) := zpow_le_zpow_right₀ (by norm_num) (by omega)
      _ = (2 ^ n) ^ 28 := by rw [zpow_mul]; norm_cast

section

variable {m : ℕ} {q : ℤ}

/-- A number has as many digits before its point as `decimalMagnitude` says, or more. -/
theorem decimalMagnitude_le (canonical : IsCanonical m q) (pos : 0 < m) :
    (10 : ℚ) ^ (decimalMagnitude m q - 1) ≤ m * 2 ^ q := by
  have reached (k : ℤ) (high : ¬m * (scaleRatio q k).1 < (scaleRatio q k).2) : (10 : ℚ) ^ k ≤ m * 2 ^ q := by
    have := ((isRatio_scaleRatio q k).le_iff m 1).2
    rw [one_mul, not_lt] at *
    simpa using this.2 (by simpa using high)
  have digits : m.log2 ≤ 52 := Nat.le_of_lt_succ ((Nat.log2_lt pos.ne').2 canonical.small)
  have leading : (2 : ℚ) ^ (m.log2 + q) ≤ m * 2 ^ q := by
    rw [zpow_add₀ (by norm_num), zpow_natCast]
    exact mul_le_mul_of_nonneg_right (by exact_mod_cast Nat.log2_self_le pos.ne') (by positivity)
  have least := canonical.least
  have greatest := canonical.greatest
  unfold decimalMagnitude
  dsimp only
  rw [Int.fdiv_eq_ediv_of_nonneg _ (by norm_num)]
  generalize estimate : ((m.log2 + q) * 30103 / 100000 : ℤ) = k
  simp only [decide_eq_true_eq]
  split
  · exact (ten_zpow_le (by omega)).trans leading
  · split
    · rw [add_sub_cancel_right]
      exact reached k ‹_›
    · rw [show k + 2 - 1 = k + 1 by ring]
      exact reached (k + 1) ‹_›

/-- The interval spans more than one step of a grid of seventeen digits. -/
theorem RoundingInterval.wide (canonical : IsCanonical m q) (pos : 0 < m) {ratio : ℕ × ℕ}
    (scale : IsRatio ratio (RoundingInterval.of m q).exponent (decimalMagnitude m q - 17)) :
    (RoundingInterval.of m q).low * ratio.1 + ratio.2 < (RoundingInterval.of m q).high * ratio.1 := by
  have power : twoTo 52 = 2 ^ 52 := rfl
  have short := canonical.small
  obtain ⟨width, high, room⟩ : ∃ width, (RoundingInterval.of m q).high = (RoundingInterval.of m q).low + width ∧
      4 * m < width * 10 ^ 16 := by
    unfold RoundingInterval.of
    dsimp only
    rw [power]
    split
    · exact ⟨3, by omega, by omega⟩
    · exact ⟨4, by omega, by omega⟩
  have step : (10 : ℚ) ^ (decimalMagnitude m q - 17) < width * 2 ^ (RoundingInterval.of m q).exponent :=
    calc (10 : ℚ) ^ (decimalMagnitude m q - 17) = 10 ^ (decimalMagnitude m q - 1) / 10 ^ 16 := by
          rw [← zpow_natCast, ← zpow_sub₀ (by norm_num)]
          congr 1
          push_cast
          ring
      _ ≤ m * 2 ^ q / 10 ^ 16 := div_le_div_of_nonneg_right (decimalMagnitude_le canonical pos) (by norm_num)
      _ = 4 * m / 10 ^ 16 * 2 ^ (q - 2) := by
          rw [zpow_sub₀ (by norm_num)]
          ring
      _ < width * 2 ^ (q - 2) := by
          refine mul_lt_mul_of_pos_right ?_ (by positivity)
          rw [div_lt_iff₀ (by norm_num)]
          exact_mod_cast room
  have less := (scale.le_iff width 1).1.not.1 (by rw [not_le, Nat.cast_one, one_mul]; exact step)
  rw [high, Nat.add_mul]
  omega

theorem RoundingInterval.middle_between (pos : 0 < m) (q : ℤ) :
    (RoundingInterval.of m q).low < (RoundingInterval.of m q).middle ∧
      (RoundingInterval.of m q).middle < (RoundingInterval.of m q).high := by
  unfold RoundingInterval.of
  dsimp only
  split <;> omega

/-- The shortest decimal of a number lies in its interval. With seventeen digits there is a point in it, and as many
digits are spared as leave one. -/
theorem contains_shortest (tie : Tie) (canonical : IsCanonical m q) (pos : 0 < m) :
    (RoundingInterval.of m q).Contains (shortest tie m q).value := by
  unfold shortest
  split
  · rename_i n whole
    unfold whole? at whole
    dsimp only at whole
    split at whole
    · rename_i divides
      cases whole
      rw [Decimal.value_trim, Decimal.value, zpow_zero, mul_one, cast_div_twoTo divides.1 divides.2]
      exact contains_self pos q
    · cases whole
  · dsimp only
    rw [Decimal.value_trim, Decimal.value]
    dsimp only
    generalize scaled : scaleRatio (RoundingInterval.of m q).exponent (decimalMagnitude m q - 17) = ratio
    have scale : IsRatio ratio (RoundingInterval.of m q).exponent (decimalMagnitude m q - 17) :=
      scaled ▸ isRatio_scaleRatio ..
    have wide := RoundingInterval.wide canonical pos scale
    generalize interval : RoundingInterval.of m q = i at *
    obtain ⟨low, high⟩ : i.low < i.middle ∧ i.middle < i.high := interval ▸ RoundingInterval.middle_between pos q
    have ends := (i.holds_iff_ends scale.numerator scale.denominator (by omega) _).1
      (i.holds_of_wide scale.denominator wide)
    obtain ⟨d, left, right⟩ := exists_sparable 16 (ends.1.trans ends.2)
    have coarser := scale.coarser (sparable (i.ends ratio).1 (i.ends ratio).2 16)
    rw [← i.holds_iff coarser]
    refine i.holds_choose tie coarser.numerator coarser.denominator low high ?_ (d := d)
    rw [i.holds_coarser, i.holds_iff_ends scale.numerator scale.denominator (by omega)]
    exact ⟨left, right⟩

end

end Reckoner.Number
