import Reckoner.Proofs.Rounding

namespace Reckoner.Number

open Float.Model (UnpackedFloat Format)
open Float.Model.UnpackedFloat

section Order

variable {m n : ℕ} {q r : ℤ}

/-- Of two numbers the one with the greater exponent is greater. -/
theorem IsPlaced.lt_of_exponent_lt (low : IsPlaced m q) (high : IsPlaced n r) (less : q < r) :
    (m : ℚ) * 2 ^ q < n * 2 ^ r := by
  have least := low.least
  have short : (m : ℚ) < 2 ^ 53 := by exact_mod_cast low.small
  have full : (2 : ℚ) ^ 52 ≤ n := by exact_mod_cast high.full.resolve_right (by omega)
  calc (m : ℚ) * 2 ^ q < 2 ^ 53 * 2 ^ q := mul_lt_mul_of_pos_right short (by positivity)
    _ = 2 ^ 52 * 2 ^ (q + 1) := by rw [zpow_add_one₀ (by norm_num)]; ring
    _ ≤ 2 ^ 52 * 2 ^ r := mul_le_mul_of_nonneg_left (zpow_le_zpow_right₀ (by norm_num) less) (by positivity)
    _ ≤ n * 2 ^ r := mul_le_mul_of_nonneg_right full (by positivity)

theorem IsPlaced.exponent_le (low : IsPlaced m q) (high : IsPlaced n r) (le : (m : ℚ) * 2 ^ q ≤ n * 2 ^ r) : q ≤ r := by
  by_contra! greater
  exact absurd (high.lt_of_exponent_lt low greater) (not_lt.2 le)

theorem IsPlaced.eq_of_value (one : IsPlaced m q) (other : IsPlaced n r) (same : (m : ℚ) * 2 ^ q = n * 2 ^ r) :
    m = n ∧ q = r := by
  obtain rfl : q = r := le_antisymm (one.exponent_le other same.le) (other.exponent_le one same.ge)
  exact ⟨by exact_mod_cast mul_right_cancel₀ (by positivity) same, rfl⟩

/-- The next number above is at least one unit away. -/
theorem IsPlaced.add_unit_le (low : IsPlaced m q) (high : IsPlaced n r) (less : (m : ℚ) * 2 ^ q < n * 2 ^ r) :
    (m + 1) * (2 : ℚ) ^ q ≤ n * 2 ^ r := by
  obtain ⟨k, rfl⟩ := Int.le.dest (low.exponent_le high less.le)
  have units : (n : ℚ) * 2 ^ (q + k) = (n * 2 ^ k : ℕ) * 2 ^ q := by
    rw [zpow_add₀ (by norm_num), zpow_natCast]
    push_cast
    ring
  rw [units] at less ⊢
  have whole : m < n * 2 ^ k := by exact_mod_cast lt_of_mul_lt_mul_right less (by positivity)
  exact mul_le_mul_of_nonneg_right (by exact_mod_cast whole) (by positivity)

/-- The next number below is at least twice as far away as what is rounded to the number. -/
theorem IsPlaced.le_sub_reach (low : IsPlaced m q) (high : IsPlaced n r) (less : (m : ℚ) * 2 ^ q < n * 2 ^ r) :
    (m : ℚ) * 2 ^ q ≤ (n - 2 * reach n r) * 2 ^ r := by
  have half := reach_le n r
  rcases (low.exponent_le high less.le).eq_or_lt with rfl | below
  · have next := le_of_mul_le_mul_right (low.add_unit_le high less) (by positivity)
    exact mul_le_mul_of_nonneg_right (by linarith) (by positivity)
  · have least := low.least
    have short : (m : ℚ) + 1 ≤ 2 ^ 53 := by exact_mod_cast low.small
    have above : (2 : ℚ) ^ 52 - 1 / 2 ≤ n - 2 * reach n r := by
      rcases (high.full.resolve_right (by omega)).eq_or_lt with rfl | further
      · rw [reach, if_pos ⟨rfl, by omega⟩]
        norm_num
      · have further : (2 : ℚ) ^ 52 + 1 ≤ n := by exact_mod_cast further
        linarith
    calc (m : ℚ) * 2 ^ q ≤ m * 2 ^ (r - 1) :=
          mul_le_mul_of_nonneg_left (zpow_le_zpow_right₀ (by norm_num) (by omega)) (by positivity)
      _ = m / 2 * 2 ^ r := by rw [zpow_sub_one₀ (by norm_num)]; ring
      _ ≤ (n - 2 * reach n r) * 2 ^ r := mul_le_mul_of_nonneg_right (by linarith) (by positivity)

/-- A rational that is less than half way to the neighbours of a number is nearer to it than to numbers behind
these. -/
theorem abs_sub_lt_of_gap {a b v u w : ℚ} (pos : 0 < w) (half : w ≤ u / 2) (low : a - w < v) (high : v < a + u / 2)
    (gap : a + u ≤ b ∨ b ≤ a - 2 * w) : |v - a| < |v - b| := by
  rcases gap with above | below
  · rw [abs_sub_comm v b, abs_of_nonneg (by linarith : 0 ≤ b - v)]
    exact abs_lt.2 ⟨by linarith, by linarith⟩
  · rw [abs_of_nonneg (by linarith : 0 ≤ v - b)]
    exact abs_lt.2 ⟨by linarith, by linarith⟩

theorem abs_sub_le_of_gap {a b v u w : ℚ} (pos : 0 < w) (half : w ≤ u / 2) (low : a - w ≤ v) (high : v ≤ a + u / 2)
    (gap : a + u ≤ b ∨ b ≤ a - 2 * w) : |v - a| ≤ |v - b| := by
  rcases gap with above | below
  · rw [abs_sub_comm v b, abs_of_nonneg (by linarith : 0 ≤ b - v)]
    exact abs_le.2 ⟨by linarith, by linarith⟩
  · rw [abs_of_nonneg (by linarith : 0 ≤ v - b)]
    exact abs_le.2 ⟨by linarith, by linarith⟩

theorem IsPlaced.gap (placed : IsPlaced m q) (other : IsPlaced n r) (different : (m : ℚ) * 2 ^ q ≠ n * 2 ^ r) :
    (m : ℚ) * 2 ^ q + 2 ^ q ≤ n * 2 ^ r ∨ (n : ℚ) * 2 ^ r ≤ m * 2 ^ q - 2 * (reach m q * 2 ^ q) := by
  rcases different.lt_or_gt with less | greater
  · exact .inl (by linarith [placed.add_unit_le other less])
  · exact .inr (by linarith [other.le_sub_reach placed greater])

/-- What is rounded to a number is nearer to it than to other numbers, or as near and the significand is even. -/
theorem Near.nearest {v : ℚ} (near : Near m q v) (placed : IsPlaced m q) (other : IsPlaced n r) :
    |v - m * 2 ^ q| < |v - n * 2 ^ r| ∨ |v - m * 2 ^ q| = |v - n * 2 ^ r| ∧ (m = n ∧ q = r ∨ m % 2 = 0) := by
  rcases eq_or_ne ((m : ℚ) * 2 ^ q) (n * 2 ^ r) with same | different
  · exact .inr ⟨by rw [same], .inl (placed.eq_of_value other same)⟩
  have unit : (0 : ℚ) < 2 ^ q := by positivity
  have gap := placed.gap other different
  have pos := mul_pos (reach_pos m q) unit
  have half : reach m q * 2 ^ q ≤ 2 ^ q / 2 := by linarith [mul_le_mul_of_nonneg_right (reach_le m q) unit.le]
  by_cases even : m % 2 = 0
  · obtain ⟨low, high⟩ := near.bounds
    rw [le_div_iff₀ unit] at low
    rw [div_le_iff₀ unit] at high
    have le := abs_sub_le_of_gap pos half (by linarith) (by linarith) gap
    exact le.lt_or_eq.imp_right fun tie => ⟨tie, .inr even⟩
  · obtain ⟨low, high⟩ := near.bounds_of_odd even
    rw [lt_div_iff₀ unit] at low
    rw [div_lt_iff₀ unit] at high
    exact .inl (abs_sub_lt_of_gap pos half (by linarith) (by linarith) gap)

/-- From half way behind the greatest finite number on the exponent is too large. -/
theorem Near.overflow_le_iff {v : ℚ} (near : Near m q v) (placed : IsPlaced m q) : overflow ≤ v ↔ 971 < q := by
  have unit : (0 : ℚ) < 2 ^ q := by positivity
  obtain ⟨low, high⟩ := near.bounds
  rw [le_div_iff₀ unit] at low
  rw [div_le_iff₀ unit] at high
  constructor
  · intro large
    by_contra! small
    have below : v < (2 ^ 53 - 1 / 2) * 2 ^ q := by
      rcases (Nat.le_sub_one_of_lt placed.small).eq_or_lt with rfl | further
      · have strict := (near.bounds_of_odd (by decide)).2
        rw [div_lt_iff₀ unit] at strict
        norm_num at strict ⊢
        exact strict
      · have further : (m : ℚ) + 2 ≤ 2 ^ 53 := by exact_mod_cast (by omega : m + 2 ≤ 2 ^ 53)
        exact high.trans_lt (mul_lt_mul_of_pos_right (by linarith) unit)
    have scale : (2 : ℚ) ^ q ≤ 2 ^ (971 : ℤ) := zpow_le_zpow_right₀ (by norm_num) small
    exact absurd large (not_le.2 (below.trans_le (mul_le_mul_of_nonneg_left scale (by norm_num))))
  · intro large
    have full := placed.full.resolve_right (by omega)
    have above : (2 : ℚ) ^ 52 - 1 / 4 ≤ m - reach m q := by
      have half := reach_le m q
      rcases full.eq_or_lt with rfl | further
      · rw [reach, if_pos ⟨rfl, by omega⟩]
        norm_num
      · have further : (2 : ℚ) ^ 52 + 1 ≤ m := by exact_mod_cast further
        linarith
    calc overflow = (2 ^ 52 - 1 / 4) * 2 ^ (972 : ℤ) := by
          rw [overflow, show (972 : ℤ) = 971 + 1 by rfl, zpow_add_one₀ (by norm_num)]; ring
      _ ≤ (2 ^ 52 - 1 / 4) * 2 ^ q :=
          mul_le_mul_of_nonneg_left (zpow_le_zpow_right₀ (by norm_num) (by omega)) (by norm_num)
      _ ≤ (m - reach m q) * 2 ^ q := mul_le_mul_of_nonneg_right above unit.le
      _ ≤ v := low

end Order

/-- Of the numbers that are not negative a number is nearest to a rational, and of two of them it is the one with an
even significand. From half way behind the greatest finite number on it is infinity. -/
def IsNearest (v : ℚ) (x : Float) : Prop :=
  match exact x with
  | .finite false m q => v < overflow ∧ ∀ y n r, exact y = .finite false n r →
      |v - m * 2 ^ q| < |v - n * 2 ^ r| ∨ |v - m * 2 ^ q| = |v - n * 2 ^ r| ∧ (x = y ∨ m % 2 = 0)
  | .infinite false => overflow ≤ v
  | _ => False

section Nearest

variable {v : ℚ} {m : ℕ} {q : ℤ} {x y : Float}

theorem isNearest_of_infinite (content : exact x = .infinite false) : IsNearest v x ↔ overflow ≤ v := by
  rw [IsNearest, content]

theorem Near.isNearest (near : Near m q v) (canonical : IsCanonical m q) (content : exact x = .finite false m q) :
    IsNearest v x := by
  rw [IsNearest, content]
  have placed := canonical.placed
  refine ⟨not_le.1 fun large => ?_, fun y n r other => ?_⟩
  · exact absurd ((near.overflow_le_iff placed).1 large) (not_lt.2 canonical.greatest)
  · refine (near.nearest placed (isCanonical_of_exact other).placed).imp_right fun ⟨tie, same⟩ => ⟨tie, ?_⟩
    refine same.imp_left ?_
    rintro ⟨rfl, rfl⟩
    exact exact_injective (content.trans other.symm)

/-- Packing makes infinity of what is too large. -/
theorem exact_pack_overflow {pos : 0 < m} (large : 971 < q) :
    exact (.ofModel (.pack (.finite .positive m q pos))) = .infinite false := by
  change Exact.ofBits (pack .binary64 (.finite .positive m q pos)).toNat = _
  have bias : (Format.binary64.exponentBias : ℤ) = 1023 := rfl
  unfold pack
  dsimp only
  rw [if_pos (by simp only [bias]; omega)]
  decide +kernel

theorem IsRounded.isNearest {u : UnpackedFloat} (rounded : IsRounded v u) : IsNearest v (.ofModel (.pack u)) := by
  match u, rounded with
  | .zero .positive, near =>
    have fits : Fits (.zero .positive) := trivial
    exact Near.isNearest near ⟨by decide, by decide, by decide, .inr rfl⟩ (exact_pack fits)
  | .finite .positive m q pos, ⟨placed, near⟩ =>
    rcases le_or_gt q 971 with small | large
    · have canonical := placed.canonical small
      exact near.isNearest canonical (exact_pack (u := .finite .positive m q pos) canonical)
    · exact (isNearest_of_infinite (exact_pack_overflow large)).2 ((near.overflow_le_iff placed).2 large)
  | .infinity .positive, large =>
    have fits : Fits (.infinity .positive) := trivial
    exact (isNearest_of_infinite (exact_pack fits)).2 large

theorem exists_exact (canonical : IsCanonical m q) : ∃ x, exact x = .finite false m q := by
  rcases m.eq_zero_or_pos with rfl | pos
  · obtain rfl : q = -1074 := canonical.full.resolve_left (by decide)
    exact ⟨0.0, exact_zero⟩
  · exact ⟨_, exact_pack (u := .finite .positive m q pos) canonical⟩

theorem IsNearest.of_exact (nearest : IsNearest v x) (content : exact x = .finite false m q) :
    v < overflow ∧ ∀ y n r, exact y = .finite false n r →
      |v - m * 2 ^ q| < |v - n * 2 ^ r| ∨ |v - m * 2 ^ q| = |v - n * 2 ^ r| ∧ (x = y ∨ m % 2 = 0) := by
  rwa [IsNearest, content] at nearest

theorem IsNearest.cases (nearest : IsNearest v x) :
    (∃ m q, exact x = .finite false m q) ∨ exact x = .infinite false ∧ overflow ≤ v := by
  unfold IsNearest at nearest
  split at nearest
  · exact .inl ⟨_, _, ‹_›⟩
  · exact .inr ⟨‹_›, nearest⟩
  · exact nearest.elim

/-- Between numbers with even significands there is another number, so what is half way between them is nearer to
that. -/
theorem IsNearest.not_lt_of_even {n : ℕ} {r : ℤ} (nearest : IsNearest v x) (content : exact x = .finite false m q)
    (other : IsCanonical n r) (tie : |v - m * 2 ^ q| = |v - n * 2 ^ r|) (even : m % 2 = 0) (even' : n % 2 = 0) :
    ¬(m : ℚ) * 2 ^ q < n * 2 ^ r := by
  intro less
  have canonical := isCanonical_of_exact content
  have between : IsCanonical (m + 1) q :=
    ⟨by have := canonical.small; omega, canonical.least, canonical.greatest, canonical.full.imp_left fun _ => by omega⟩
  obtain ⟨z, content'⟩ := exists_exact between
  have unit : (0 : ℚ) < 2 ^ q := by positivity
  rcases (canonical.placed.add_unit_le other.placed less).lt_or_eq with below | same
  · have halfway : v - m * 2 ^ q = -(v - n * 2 ^ r) := (abs_eq_abs.1 tie).resolve_left fun same => by linarith
    have nearer : |v - (m + 1 : ℕ) * 2 ^ q| < |v - m * 2 ^ q| := by
      rw [abs_of_pos (by linarith : 0 < v - m * 2 ^ q), abs_lt]
      push_cast
      constructor <;> linarith
    rcases (nearest.of_exact content).2 z _ _ content' with further | ⟨tie', -⟩
    · exact lt_asymm nearer further
    · exact nearer.ne' tie'
  · obtain ⟨rfl, -⟩ := between.placed.eq_of_value other.placed (by push_cast; exact same)
    omega

/-- One number is nearest. -/
theorem IsNearest.unique (one : IsNearest v x) (other : IsNearest v y) : x = y := by
  rcases one.cases with ⟨m, q, content⟩ | ⟨content, large⟩ <;>
    rcases other.cases with ⟨n, r, content'⟩ | ⟨content', large'⟩
  · have first := (one.of_exact content).2 y n r content'
    have second := (other.of_exact content').2 x m q content
    rcases first with closer | ⟨tie, same | even⟩
    · rcases second with closer' | ⟨tie', -⟩
      · exact absurd closer' (lt_asymm closer)
      · exact absurd tie'.symm closer.ne
    · exact same
    · rcases second with closer' | ⟨-, same' | even'⟩
      · exact absurd tie closer'.ne'
      · exact same'.symm
      · rcases lt_trichotomy ((m : ℚ) * 2 ^ q) (n * 2 ^ r) with less | same | greater
        · exact absurd less (one.not_lt_of_even content (isCanonical_of_exact content') tie even even')
        · obtain ⟨rfl, rfl⟩ :=
            (isCanonical_of_exact content).placed.eq_of_value (isCanonical_of_exact content').placed same
          exact exact_injective (content.trans content'.symm)
        · exact absurd greater (other.not_lt_of_even content' (isCanonical_of_exact content) tie.symm even' even)
  · exact absurd large' (not_le.2 (one.of_exact content).1)
  · exact absurd large (not_le.2 (other.of_exact content').1)
  · exact exact_injective (content.trans content'.symm)

/-- A number is nearest to what is rounded to it. -/
theorem IsNearest.exact_eq (nearest : IsNearest v x) (canonical : IsCanonical m q) (near : Near m q v) :
    exact x = .finite false m q := by
  obtain ⟨y, content⟩ := exists_exact canonical
  rw [nearest.unique (near.isNearest canonical content), content]

end Nearest

end Reckoner.Number
