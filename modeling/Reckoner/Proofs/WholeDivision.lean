import Reckoner.Proofs.ExactArithmetic

namespace Reckoner.Number

open Float.Model (UnpackedFloat Format)
open Float.Model.UnpackedFloat

section Floor

variable {x : Float} {a : ℚ}

theorem hasValue_withSign_ofNat {n : ℕ} (small : n < 2 ^ 53) (negative : Bool) :
    HasValue (withSign negative (Float.ofNat n)) (if negative then -(n : ℤ) else n : ℤ) := by
  obtain ⟨m, q, canonical, value⟩ := exists_canonical small
  refine ⟨negative, m, q, exact_withSign (exact_ofNat canonical value) negative, ?_⟩
  cases negative with
  | false => rw [signedValue_false, ← value, if_neg Bool.false_ne_true, Int.cast_natCast]
  | true => rw [signedValue_true, signedValue_false, ← value, if_pos rfl, Int.cast_neg, Int.cast_natCast]

/-- A negative number is rounded down to the next multiple away from zero. -/
theorem neg_ediv_natCast (m : ℕ) {u : ℕ} (pos : 0 < u) :
    -(m : ℤ) / u = -((if m % u != 0 then m / u + 1 else m / u : ℕ) : ℤ) := by
  have whole : (u : ℤ) * (m / u : ℕ) + (m % u : ℕ) = m := by exact_mod_cast Nat.div_add_mod m u
  have below : m % u < u := Nat.mod_lt _ pos
  generalize m / u = d at *
  generalize m % u = r at *
  rw [← whole]
  by_cases rest : r = 0
  · subst rest
    rw [if_neg (by simp), Nat.cast_zero, add_zero, ← mul_neg, Int.mul_ediv_cancel_left _ (by omega)]
  · rw [if_pos (by simpa using rest)]
    refine ((Int.ediv_emod_unique (r := u - r) (by omega)).2 ⟨?_, by omega, by omega⟩).1
    push_cast
    ring

/-- Numbers are rounded down to the integer below. -/
theorem HasValue.floor (value : HasValue x a) : HasValue (floor x) ⌊a⌋ := by
  obtain ⟨negative, m, q, content, rfl⟩ := value
  have canonical := isCanonical_of_exact content
  rcases le_or_gt 0 q with whole | fractional
  · have integer : signedValue negative m q =
        ((if negative then -(m * 2 ^ q.toNat : ℕ) else (m * 2 ^ q.toNat : ℕ) : ℤ) : ℚ) := by
      have power : (2 : ℚ) ^ q = (2 ^ q.toNat : ℕ) := by
        rw [Nat.cast_pow, ← zpow_natCast, Int.toNat_of_nonneg whole, Nat.cast_ofNat]
      rw [signedValue, power]
      cases negative <;> simp
    have unchanged : Number.floor x = x := by
      rw [Number.floor, Number.roundWith, content]
      exact if_pos whole
    rw [unchanged, integer, Int.floor_intCast, ← integer]
    exact ⟨negative, m, q, content, rfl⟩
  · have unit : (2 : ℚ) ^ q = 1 / twoTo (-q).toNat := by
      rw [twoTo_cast, ← zpow_natCast, Int.toNat_of_nonneg (by omega), zpow_neg, one_div, inv_inv]
    have two : 2 ≤ twoTo (-q).toNat := by
      calc 2 = 2 ^ 1 := rfl
        _ ≤ 2 ^ (-q).toNat := Nat.pow_le_pow_right (by decide) (by omega)
    have short : m / twoTo (-q).toNat < 2 ^ 52 := by
      have := canonical.small
      exact Nat.div_lt_of_lt_mul (by nlinarith)
    have rounded : Number.floor x = withSign negative (Float.ofNat (if negative && m % twoTo (-q).toNat != 0 then
        m / twoTo (-q).toNat + 1 else m / twoTo (-q).toNat)) := by
      rw [Number.floor, Number.roundWith, content]
      exact if_neg (by omega)
    rw [rounded, signedValue, unit]
    generalize twoTo (-q).toNat = u at *
    cases negative with
    | false =>
      have down : ⌊(if false then -(m : ℚ) else m) * (1 / u)⌋ = (m / u : ℕ) := by
        rw [if_neg Bool.false_ne_true, mul_one_div]
        exact Rat.floor_intCast_div_natCast m u
      rw [down, Bool.false_and, if_neg Bool.false_ne_true]
      exact hasValue_withSign_ofNat (by omega) false
    | true =>
      have down : ⌊(if true then -(m : ℚ) else m) * (1 / u)⌋ =
          -((if m % u != 0 then m / u + 1 else m / u : ℕ) : ℤ) := by
        rw [if_pos rfl, mul_one_div, ← neg_ediv_natCast m (by omega)]
        exact_mod_cast Rat.floor_intCast_div_natCast (-m) u
      rw [down, Bool.true_and]
      exact hasValue_withSign_ofNat (by split <;> omega) true

end Floor

section Quotient

variable {m k d : ℕ} {q e : ℤ} {v : ℚ}

/-- How far a rational below a power of two is away from the number that it is rounded to. A number as great as that
power is the power itself, and what is below it is only half as far away. -/
theorem Near.abs_sub_le (near : Near m q v) (canonical : IsCanonical m q) (below : v < 2 ^ e) (least : 0 ≤ e) :
    |m * 2 ^ q - v| ≤ 2 ^ (e - 54) := by
  have unit : (0 : ℚ) < 2 ^ q := by positivity
  have error : (0 : ℚ) < 2 ^ (e - 54) := by positivity
  have scale : (2 : ℚ) ^ e = 2 ^ 54 * 2 ^ (e - 54) := by
    rw [← zpow_natCast, ← zpow_add₀ (by norm_num)]
    congr 1
    ring
  obtain ⟨low, high⟩ := near.bounds
  rw [le_div_iff₀ unit] at low
  rw [div_le_iff₀ unit] at high
  rcases le_or_gt q (e - 53) with fine | coarse
  · have half : (2 : ℚ) ^ q ≤ 2 * 2 ^ (e - 54) := by
      calc (2 : ℚ) ^ q ≤ 2 ^ (e - 54 + 1) := zpow_le_zpow_right₀ (by norm_num) (by omega)
        _ = 2 * 2 ^ (e - 54) := by rw [zpow_add_one₀ (by norm_num), mul_comm]
    have reached := mul_le_mul_of_nonneg_right (reach_le m q) unit.le
    exact abs_sub_le_iff.2 ⟨by linarith, by linarith⟩
  · have long : 2 ^ 52 ≤ m := canonical.full.resolve_right (by omega)
    have units : (4 : ℚ) * 2 ^ (e - 54) ≤ 2 ^ q := by
      calc (4 : ℚ) * 2 ^ (e - 54) = 2 ^ (2 + (e - 54)) := by rw [zpow_add₀ (by norm_num)]; norm_num
        _ ≤ 2 ^ q := zpow_le_zpow_right₀ (by norm_num) (by omega)
    rcases long.eq_or_lt with rfl | further
    · rw [reach, if_pos ⟨rfl, by omega⟩] at low
      have power : q = e - 52 := by
        refine le_antisymm (not_lt.1 fun above => ?_) (by omega)
        have more : (8 : ℚ) * 2 ^ (e - 54) ≤ 2 ^ q := by
          calc (8 : ℚ) * 2 ^ (e - 54) = 2 ^ (3 + (e - 54)) := by rw [zpow_add₀ (by norm_num)]; norm_num
            _ ≤ 2 ^ q := zpow_le_zpow_right₀ (by norm_num) (by omega)
        push_cast at low
        linarith
      have same : (2 : ℚ) ^ q = 4 * 2 ^ (e - 54) := by
        rw [power, show e - 52 = 2 + (e - 54) by ring, zpow_add₀ (by norm_num)]
        norm_num
      rw [same] at low high ⊢
      push_cast at low high ⊢
      exact abs_sub_le_iff.2 ⟨by linarith, by linarith⟩
    · have further : (2 : ℚ) ^ 52 + 1 ≤ m := by exact_mod_cast further
      have half := reach_le m q
      have large : (2 ^ 52 + 1 / 2) * (4 * 2 ^ (e - 54)) ≤ (m - reach m q) * (2 : ℚ) ^ q :=
        mul_le_mul (by linarith) units (by positivity) (by linarith)
      linarith

/-- What has a canonical form is rounded to it. -/
theorem Near.value_eq {n : ℕ} {r : ℤ} (near : Near m q (n * 2 ^ r)) (canonical : IsCanonical m q)
    (canonical' : IsCanonical n r) : (m : ℚ) * 2 ^ q = n * 2 ^ r := by
  obtain ⟨x, content⟩ := exists_exact canonical
  have same := (near.isNearest canonical content).exact_eq canonical' (near_self n r)
  obtain ⟨-, rfl, rfl⟩ := Exact.finite.inj (content.symm.trans same)
  rfl

theorem floor_of_between {z : ℤ} (low : z < v) (high : v < z + 1) : ⌊v⌋ = z ∧ ⌊-v⌋ = -z - 1 := by
  constructor
  · exact Int.floor_eq_iff.2 ⟨low.le, high⟩
  · refine Int.floor_eq_iff.2 ⟨?_, ?_⟩ <;>
    · push_cast
      linarith

/-- Quotients are rounded to numbers between the same integers. A quotient that is no integer is away from the integers
on both sides by one part in `d` at least, which is more than rounding can take. -/
theorem Near.floor_eq (near : Near m q (k / d)) (canonical : IsCanonical m q) (pos : 0 < d) (small : k < 2 ^ 53)
    (short : d < 2 ^ 53) : ⌊(m : ℚ) * 2 ^ q⌋ = ⌊(k : ℚ) / d⌋ ∧ ⌊-((m : ℚ) * 2 ^ q)⌋ = ⌊-((k : ℚ) / d)⌋ := by
  have positive : (0 : ℚ) < d := by exact_mod_cast pos
  by_cases whole : k % d = 0
  · have quotient : (k : ℚ) / d = (k / d : ℕ) := by
      rw [Nat.cast_div (Nat.dvd_of_mod_eq_zero whole) positive.ne']
    obtain ⟨n, r, canonical', value⟩ := exists_canonical ((Nat.div_le_self k d).trans_lt small)
    rw [quotient, value] at near ⊢
    rw [near.value_eq canonical canonical']
    exact ⟨rfl, rfl⟩
  · have digits := Nat.log2_self_le pos.ne'
    have digits' := Nat.lt_log2_self (n := d)
    have few : d.log2 < 53 := (Nat.log2_lt pos.ne').2 short
    have below : (k : ℚ) / d < 2 ^ (53 - d.log2 : ℤ) := by
      rw [div_lt_iff₀ positive, zpow_sub₀ (by norm_num), zpow_natCast]
      have length : (2 : ℚ) ^ d.log2 ≤ d := by exact_mod_cast digits
      calc (k : ℚ) < 2 ^ 53 := by exact_mod_cast small
        _ = 2 ^ (53 : ℤ) / 2 ^ d.log2 * 2 ^ d.log2 := (div_mul_cancel₀ _ (by positivity)).symm
        _ ≤ 2 ^ (53 : ℤ) / 2 ^ d.log2 * d := mul_le_mul_of_nonneg_left length (by positivity)
    have error := near.abs_sub_le canonical below (by omega)
    have step : (2 : ℚ) ^ (53 - d.log2 - 54 : ℤ) < 1 / d := by
      rw [show (53 - d.log2 - 54 : ℤ) = -((d.log2 + 1 : ℕ) : ℤ) by push_cast; ring, zpow_neg, zpow_natCast, one_div]
      exact inv_strictAnti₀ positive (by exact_mod_cast digits')
    obtain ⟨low, high⟩ := abs_sub_lt_iff.1 (error.trans_lt step)
    have parts : (k : ℚ) / d = (k / d : ℕ) + (k % d : ℕ) * (1 / d) := by
      field_simp
      exact_mod_cast (Nat.div_add_mod k d).symm
    have one_le : (1 : ℚ) ≤ (k % d : ℕ) := by exact_mod_cast Nat.pos_of_ne_zero whole
    have rest : ((k % d : ℕ) : ℚ) + 1 ≤ d := by exact_mod_cast Nat.mod_lt k pos
    have inverse : (0 : ℚ) < 1 / d := by positivity
    have more := mul_le_mul_of_nonneg_right one_le inverse.le
    have less := mul_le_mul_of_nonneg_right rest inverse.le
    rw [one_mul] at more
    rw [add_mul, one_mul, mul_one_div_cancel positive.ne'] at less
    rw [parts] at low high ⊢
    generalize (k % d : ℕ) * (1 / d : ℚ) = fraction at *
    generalize k / d = z at *
    obtain ⟨down, down'⟩ := floor_of_between (z := z) (v := m * 2 ^ q) (by push_cast; linarith) (by push_cast; linarith)
    obtain ⟨same, same'⟩ := floor_of_between (z := z) (v := z + fraction) (by push_cast; linarith)
      (by push_cast; linarith)
    rw [down, down', same, same']
    exact ⟨rfl, rfl⟩

end Quotient

section Division

variable {x y : Float} {i j : ℤ}

theorem div_signedBy {s t : Sign} {m n : ℕ} {q r : ℤ} (pos : 0 < m) (pos' : 0 < n) :
    UnpackedFloat.div .binary64 (.finite s m q pos) (.finite t n r pos') =
      signedBy (s / t) (UnpackedFloat.div .binary64 (.finite .positive m q pos) (.finite .positive n r pos')) := by
  unfold UnpackedFloat.div
  dsimp only
  exact roundWithAccuracy_signedBy ..

/-- The division of whole numbers, rounded down. -/
theorem HasValue.floor_div (left : HasValue x i) (right : HasValue y j) (small : i.natAbs < 2 ^ 53)
    (short : j.natAbs < 2 ^ 53) (pos : 0 < j) : HasValue (Number.floor (x / y)) (i / j : ℤ) := by
  have quotient : ⌊(i : ℚ) / j⌋ = i / j := by
    lift j to ℕ using pos.le
    exact Rat.floor_intCast_div_natCast i j
  rw [← quotient]
  rcases right.unpack_cases with ⟨t, -, zero⟩ | ⟨t, n, r, pos', content', canonical', value'⟩
  · exact absurd (by exact_mod_cast zero : j = 0) pos.ne'
  obtain ⟨size', same'⟩ := natAbs_of_apply value'
  obtain rfl : t = .positive := by
    cases t with
    | positive => rfl
    | negative => rw [Sign.apply] at same'; omega
  rcases left.unpack_cases with ⟨s, empty, zero⟩ | ⟨s, m, q, pos'', content, canonical, value⟩
  · have quotient : HasValue (x / y) 0 := by
      change HasValue (.ofModel (.pack (UnpackedFloat.div .binary64 x.toModel.unpack y.toModel.unpack))) _
      rw [empty, content']
      exact hasValue_pack_zero _
    rw [zero, zero_div]
    exact quotient.floor
  obtain ⟨size, same⟩ := natAbs_of_apply value
  have rounded : IsRounded (m * 2 ^ q / (n * 2 ^ r)) _ := div_rounded pos'' pos'
  rw [← size, ← size'] at rounded
  have bounded : (i.natAbs : ℚ) / j.natAbs < overflow := by
    have one : (1 : ℚ) ≤ j.natAbs := by exact_mod_cast (by omega : 1 ≤ j.natAbs)
    obtain ⟨k, e, canonical, size⟩ := exists_canonical small
    exact (div_le_self (Nat.cast_nonneg _) one).trans_lt (size ▸ canonical.lt_overflow)
  obtain ⟨k, e, canonical, near⟩ := rounded.exists_near bounded
  have content : exact (x / y) = .finite (isNegative s) k e := by
    change exact (.ofModel (.pack (UnpackedFloat.div .binary64 x.toModel.unpack y.toModel.unpack))) = _
    rw [content, content', div_signedBy, exact_pack_signedBy rounded bounded near canonical]
    cases s <;> rfl
  have down := HasValue.floor ⟨_, k, e, content, rfl⟩
  obtain ⟨above, below⟩ := near.floor_eq canonical (by omega) small short
  have divisor : (j : ℚ) = j.natAbs := by
    rw [← Int.cast_natCast, Int.natAbs_of_nonneg pos.le]
  rw [divisor]
  cases s with
  | positive =>
    have dividend : (i : ℚ) = i.natAbs := by rw [← Int.cast_natCast]; exact congrArg _ same.symm
    rwa [isNegative, signedValue_false, above, ← dividend] at down
  | negative =>
    have dividend : (i : ℚ) = -i.natAbs := by rw [← Int.cast_natCast, ← Int.cast_neg]; exact congrArg _ same.symm
    rwa [isNegative, signedValue_true, signedValue_false, below, ← neg_div, ← dividend] at down

end Division

section Remainder

variable {x y : Float} {i j : ℤ} {m : ℕ} {q : ℤ}

/-- The content of bits that are those of a finite number. -/
theorem exact_ofBits {bits : UInt64} {negative : Bool} (content : Exact.ofBits bits.toNat = .finite negative m q)
    (canonical : IsCanonical m q) : exact (Float.ofBits bits) = .finite negative m q := by
  change exact (.ofModel (.pack (unpack .binary64 bits.toBitVec))) = _
  have unpacked := ofBits_eq_ofUnpacked bits.toBitVec
  rw [← content]
  refine (exact_pack ?_).trans unpacked.symm
  have same := unpacked.symm.trans content
  cases run : unpack .binary64 bits.toBitVec with
  | finite s n r pos =>
    rw [run] at same
    obtain ⟨-, rfl, rfl⟩ := Exact.finite.inj same
    exact canonical
  | _ => trivial

/-- The fields that hold a significand and an exponent. A significand with all its bits adds one to the exponent. -/
theorem exact_ofBits_fields (canonical : IsCanonical m q) :
    exact (Float.ofBits (UInt64.ofNat ((q + 1074).toNat * 2 ^ 52 + m))) = .finite false m q := by
  obtain ⟨small, least, greatest, full⟩ := canonical
  refine exact_ofBits ?_ ⟨small, least, greatest, full⟩
  generalize place : (q + 1074).toNat = field
  rw [UInt64.toNat_ofNat', Nat.mod_eq_of_lt (by omega), ofBits_eq_ofFields, Exact.ofFields]
  have sign : ((field * 2 ^ 52 + m) / 2 ^ 63 == 1) = false := beq_eq_false_iff_ne.2 (by omega)
  rw [sign, if_neg (by omega)]
  rcases Nat.lt_or_ge m (2 ^ 52) with low | high
  · rw [if_pos (by omega)]
    congr 1 <;> omega
  · rw [if_neg (by omega)]
    congr 1 <;> omega

/-- A number is made of its sign, its significand and its exponent. -/
theorem hasValue_ofParts (negative : Bool) (small : m < 2 ^ 53) (least : -1074 ≤ q) (greatest : q ≤ 971) :
    HasValue (ofParts negative m q) (signedValue negative m q) := by
  unfold ofParts
  split
  · rename_i zero
    rw [zero, signedValue_zero]
    exact ⟨negative, 0, -1074, exact_withSign exact_zero negative, signedValue_zero ..⟩
  rename_i nonzero
  dsimp only
  generalize shift : min (52 - m.log2) (q + 1074).toNat = k
  have digits : m.log2 < 53 := (Nat.log2_lt nonzero).2 small
  obtain ⟨long, short⟩ := scaled_bounds (Nat.pos_of_ne_zero nonzero) small
  have moved : q - k + k = q := by ring
  have canonical : IsCanonical (m * 2 ^ k) (q - k) := by
    have scaled : m * 2 ^ k ≤ m * 2 ^ (52 - m.log2) :=
      Nat.mul_le_mul_left m (Nat.pow_le_pow_right (by decide) (by omega))
    refine ⟨lt_of_le_of_lt scaled short, by omega, by omega, ?_⟩
    rcases Nat.lt_or_ge (52 - m.log2) (q + 1074).toNat with less | more
    · rw [min_eq_left less.le] at shift
      exact .inl (shift ▸ long)
    · exact .inr (by omega)
  refine ⟨negative, m * 2 ^ k, q - k, exact_withSign (exact_ofBits_fields canonical) negative, ?_⟩
  have same : ((m * 2 ^ k : ℕ) : ℚ) * 2 ^ (q - k) = m * 2 ^ q := by
    have shifted := shifted_value m (e := q) (t := q - k) (by omega)
    rwa [sub_sub_cancel, Int.toNat_natCast] at shifted
  cases negative with
  | false => rw [signedValue_false, signedValue_false, same]
  | true => rw [signedValue_true, signedValue_true, signedValue_false, signedValue_false, same]

/-- The remainder of multiples of a unit. -/
theorem mod_scaled {a b A B : ℕ} {u : ℚ} (pos : 0 < u) (left : (A : ℚ) = a * u) (right : (B : ℚ) = b * u) :
    ((A % B : ℕ) : ℚ) = (a % b : ℕ) * u := by
  have quotient : A / B = a / b := by
    rw [← Nat.floor_div_eq_div (K := ℚ) A B, left, right, mul_div_mul_right _ _ pos.ne', Nat.floor_div_eq_div]
  have small : (b * (a / b : ℕ) + (a % b : ℕ) : ℚ) = a := by exact_mod_cast Nat.div_add_mod a b
  have large : (B * (A / B : ℕ) + (A % B : ℕ) : ℚ) = A := by exact_mod_cast Nat.div_add_mod A B
  rw [quotient, left, right, ← small] at large
  linear_combination large

/-- The remainder of whole numbers goes with the division that rounds towards zero. Of the two operands the one with the
smaller exponent is not shifted, and the remainder is not greater than it. -/
theorem HasValue.remainder (left : HasValue x i) (right : HasValue y j) (nonzero : j ≠ 0) :
    HasValue (remainder x y) (i.tmod j : ℤ) := by
  obtain ⟨negative, m, q, content, value⟩ := left
  obtain ⟨negative', n, r, content', value'⟩ := right
  obtain ⟨size, same⟩ := natAbs_of_signedValue value
  obtain ⟨size', -⟩ := natAbs_of_signedValue value'
  have canonical := isCanonical_of_exact content
  have canonical' := isCanonical_of_exact content'
  have nonzero : n ≠ 0 := by
    rintro rfl
    rw [Nat.cast_zero, zero_mul] at size'
    exact nonzero (Int.natAbs_eq_zero.1 (by exact_mod_cast size'))
  rw [Number.remainder, content, content']
  dsimp only
  rw [if_neg nonzero]
  have least := canonical.least
  have least' := canonical'.least
  have greatest := canonical.greatest
  have pos : (0 : ℚ) < 2 ^ min q r := by positivity
  have scaled := mod_scaled pos (size.trans (shifted_value m (min_le_left q r)).symm)
    (size'.trans (shifted_value n (min_le_right q r)).symm)
  have small : m * 2 ^ (q - min q r).toNat % (n * 2 ^ (r - min q r).toNat) < 2 ^ 53 := by
    rcases le_total q r with low | high
    · rw [min_eq_left low, sub_self, Int.toNat_zero, pow_zero, mul_one]
      exact (Nat.mod_le _ _).trans_lt canonical.small
    · rw [min_eq_right high, sub_self, Int.toNat_zero, pow_zero, mul_one]
      exact (Nat.mod_lt _ (Nat.pos_of_ne_zero nonzero)).trans canonical'.small
  have made := hasValue_ofParts negative small (by omega : -1074 ≤ min q r) (by omega)
  have sign : i.tmod j = if negative then -((i.natAbs % j.natAbs : ℕ) : ℤ) else (i.natAbs % j.natAbs : ℕ) := by
    have magnitude (k : ℕ) : (k : ℤ).tmod j = (k % j.natAbs : ℕ) := by
      rcases Int.natAbs_eq j with positive | negative
      · rw [positive, Int.natAbs_natCast]
        rfl
      · rw [negative, Int.tmod_neg, Int.natAbs_neg, Int.natAbs_natCast]
        rfl
    cases negative with
    | false =>
      rw [← same]
      exact magnitude _
    | true =>
      rw [← same]
      simp only [if_true, Int.neg_tmod, magnitude, Int.natAbs_neg, Int.natAbs_natCast]
  rw [sign]
  cases negative with
  | false =>
    rw [signedValue_false, ← scaled] at made
    exact made
  | true =>
    rw [signedValue_true, signedValue_false, ← scaled] at made
    rw [if_pos rfl, Int.cast_neg]
    exact made

end Remainder

end Reckoner.Number
