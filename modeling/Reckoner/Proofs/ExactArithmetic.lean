import Reckoner.Proofs.NumberOrder

namespace Reckoner.Number

open Float.Model (UnpackedFloat Format totalExponent)
open Float.Model.UnpackedFloat

/-- A finite number is a rational number. -/
def HasValue (x : Float) (v : ℚ) : Prop := ∃ negative m q, exact x = .finite negative m q ∧ signedValue negative m q = v

section Rounding

variable {m n : ℕ} {e q r i : ℤ} {v : ℚ} {u : UnpackedFloat}

/-- What is not too large is rounded to an unpacked number that fits. -/
theorem IsRounded.fits (rounded : IsRounded v u) (small : v < overflow) : Fits u := by
  match u, rounded with
  | .zero .positive, _ => trivial
  | .finite .positive m q pos, ⟨placed, near⟩ =>
    refine placed.canonical (not_lt.1 fun large => ?_)
    exact absurd ((near.overflow_le_iff placed).2 large) (not_le.2 small)
  | .infinity .positive, large => exact absurd large (not_le.2 small)

theorem IsRounded.exists_near (rounded : IsRounded v u) (small : v < overflow) :
    ∃ m q, IsCanonical m q ∧ Near m q v := by
  have fits := rounded.fits small
  match u, rounded with
  | .zero .positive, near => exact ⟨0, -1074, ⟨by decide, by decide, by decide, .inr rfl⟩, near⟩
  | .finite .positive m q pos, ⟨_, near⟩ => exact ⟨m, q, fits, near⟩
  | .infinity .positive, large => exact absurd large (not_le.2 small)

theorem IsCanonical.lt_overflow (canonical : IsCanonical m q) : (m : ℚ) * 2 ^ q < overflow := by
  refine not_le.1 fun large => ?_
  exact absurd (((near_self m q).overflow_le_iff canonical.placed).1 large) (not_lt.2 canonical.greatest)

/-- An unpacked number with a sign in front. -/
def signedBy (s : Sign) (u : UnpackedFloat) : UnpackedFloat :=
  match s with
  | .negative => u.neg
  | .positive => u

theorem signedValue_isNegative (s : Sign) (m : ℕ) (q : ℤ) :
    signedValue (isNegative s) m q = (s.apply m : ℤ) * 2 ^ q := by
  cases s <;> simp [signedValue, isNegative, Sign.apply]

theorem apply_mul (s t : Sign) (m n : ℕ) : (s * t).apply (m * n : ℕ) = s.apply m * t.apply n := by
  cases s <;> cases t
  · exact (Nat.cast_mul m n).trans (neg_mul_neg _ _).symm
  · exact (congrArg _ (Nat.cast_mul m n)).trans (neg_mul _ _).symm
  · exact (congrArg _ (Nat.cast_mul m n)).trans (mul_neg _ _).symm
  · exact Nat.cast_mul m n

/-- The magnitude of a whole number, and its sign in front. -/
theorem natAbs_of_apply {s : Sign} (value : (i : ℚ) = (s.apply m : ℤ) * 2 ^ q) :
    (i.natAbs : ℚ) = m * 2 ^ q ∧ s.apply i.natAbs = i := by
  have magnitude : (0 : ℚ) ≤ m * 2 ^ q := by positivity
  cases s with
  | positive =>
    have value : (i : ℚ) = m * 2 ^ q := value
    have nonnegative : 0 ≤ i := by exact_mod_cast magnitude.trans value.ge
    refine ⟨?_, Int.natAbs_of_nonneg nonnegative⟩
    rw [Nat.cast_natAbs, abs_of_nonneg nonnegative, value]
  | negative =>
    have value : (i : ℚ) = -(m * 2 ^ q) := by rw [value, Sign.apply]; push_cast; ring
    have nonpositive : i ≤ 0 := by exact_mod_cast value.le.trans (neg_nonpos.2 magnitude)
    refine ⟨?_, ?_⟩
    · rw [Nat.cast_natAbs, abs_of_nonpos nonpositive, Int.cast_neg, value, neg_neg]
    · rw [Sign.apply, Int.ofNat_natAbs_of_nonpos nonpositive, neg_neg]

theorem exact_pack_signedBy (rounded : IsRounded v u) (small : v < overflow) (near : Near m q v)
    (canonical : IsCanonical m q) (s : Sign) :
    exact (.ofModel (.pack (signedBy s u))) = .finite (isNegative s) m q := by
  have content := rounded.isNearest.exact_eq canonical near
  cases s with
  | positive => exact content
  | negative =>
    have fits := rounded.fits small
    rw [signedBy, exact_pack fits.neg, ofUnpacked_neg, ← exact_pack fits, content]
    rfl

/-- Whole numbers of up to 53 binary digits are rounded to themselves. -/
theorem hasValue_pack_signedBy {s : Sign} (rounded : IsRounded i.natAbs u) (small : i.natAbs < 2 ^ 53)
    (same : s.apply i.natAbs = i) : HasValue (.ofModel (.pack (signedBy s u))) i := by
  obtain ⟨m, q, canonical, size⟩ := exists_canonical small
  rw [size] at rounded
  refine ⟨isNegative s, m, q, exact_pack_signedBy rounded canonical.lt_overflow (near_self m q) canonical s, ?_⟩
  have unsigned := signedValue_isNegative s m q
  rw [unsigned]
  cases s with
  | positive =>
    rw [← same]
    exact size.symm
  | negative =>
    rw [← same]
    simp only [Sign.apply, Int.cast_neg, Int.cast_natCast, neg_mul, size]

theorem roundWithAccuracy_signedBy (s : Sign) (mantissa : ℕ) (exponent : ℤ) (accuracy : Accuracy) :
    roundWithAccuracy .binary64 s mantissa exponent accuracy =
      signedBy s (roundWithAccuracy .binary64 .positive mantissa exponent accuracy) := by
  cases s with
  | positive => rfl
  | negative =>
    unfold roundWithAccuracy
    dsimp only
    split <;> rfl

theorem round_signedBy (s : Sign) (m : ℕ) (e : ℤ) :
    UnpackedFloat.round .binary64 s m e = signedBy s (UnpackedFloat.round .binary64 .positive m e) := by
  unfold UnpackedFloat.round
  dsimp only
  exact roundWithAccuracy_signedBy ..

/-- Digits behind the point are added where the significand is short. -/
theorem round_rounded (pos : 0 < m) (e : ℤ) : IsRounded (m * 2 ^ e) (UnpackedFloat.round .binary64 .positive m e) := by
  unfold UnpackedFloat.round decreaseExponent
  dsimp only
  generalize target : Format.binary64.targetExponent (totalExponent m e) = t
  generalize shift : (e - t).toNat = k
  have digits : (m <<< k).log2 = m.log2 + k := by
    rw [Nat.shiftLeft_eq, Nat.log2_eq_iff (by positivity)]
    constructor
    · rw [pow_add]
      exact Nat.mul_le_mul_right _ (Nat.log2_self_le pos.ne')
    · rw [Nat.add_right_comm, pow_add]
      exact Nat.mul_lt_mul_of_pos_right Nat.lt_log2_self (Nat.two_pow_pos _)
  apply roundWithAccuracy_rounded
  · change (m * 2 ^ e / 2 ^ (e - k) : ℚ) = (m <<< k : ℕ)
    rw [Nat.shiftLeft_eq, zpow_sub₀ (by norm_num), zpow_natCast]
    push_cast
    field_simp
  · have same : totalExponent (m <<< k) (e - k) = totalExponent m e := by
      rw [totalExponent, totalExponent, digits]
      omega
    rw [same, target]
    omega

theorem hasValue_pack_zero (s : Sign) : HasValue (.ofModel (.pack (.zero s))) 0 :=
  ⟨isNegative s, 0, -1074, exact_pack (u := .zero s) trivial, signedValue_zero ..⟩

theorem hasValue_round (pos : 0 < m) {s : Sign} (value : (i : ℚ) = (s.apply m : ℤ) * 2 ^ e)
    (small : i.natAbs < 2 ^ 53) : HasValue (.ofModel (.pack (UnpackedFloat.round .binary64 s m e))) i := by
  obtain ⟨size, same⟩ := natAbs_of_apply value
  have rounded := round_rounded pos e
  rw [← size] at rounded
  rw [round_signedBy]
  exact hasValue_pack_signedBy rounded small same

theorem hasValue_normalize {j : ℤ} (value : (i : ℚ) = j * 2 ^ e) (small : i.natAbs < 2 ^ 53) (s : Sign) :
    HasValue (.ofModel (.pack (UnpackedFloat.normalize .binary64 j e s))) i := by
  unfold UnpackedFloat.normalize
  rcases lt_trichotomy j 0 with negative | rfl | positive
  · rw [compare_lt_iff_lt.2 negative]
    refine hasValue_round (by omega) ?_ small
    rw [value, Sign.apply, Int.toNat_of_nonneg (by omega), neg_neg]
  · rw [Int.cast_zero, zero_mul] at value
    rw [compare_eq_iff_eq.2 rfl, value]
    exact hasValue_pack_zero s
  · rw [compare_gt_iff_gt.2 positive]
    refine hasValue_round (by omega) ?_ small
    rw [value, Sign.apply, Int.toNat_of_nonneg (by omega)]

end Rounding

section Values

variable {x y : Float} {a b : ℚ} {i j : ℤ}

theorem HasValue.place? (value : HasValue x a) : place? x = some ((a : WithTop ℚ) : WithBot (WithTop ℚ)) := by
  obtain ⟨negative, m, q, content, rfl⟩ := value
  rw [Number.place?, content, Exact.place?]

theorem HasValue.lt_iff (left : HasValue x a) (right : HasValue y b) : x < y ↔ a < b := by
  rw [lt_iff_place left.place? right.place?, WithBot.coe_lt_coe, WithTop.coe_lt_coe]

theorem HasValue.le_iff (left : HasValue x a) (right : HasValue y b) : x ≤ y ↔ a ≤ b := by
  have order : x ≤ y ↔ x.toModel.unpack.le y.toModel.unpack = true := decide_eq_true_iff
  rw [order, UnpackedFloat.le, unpacked_compare left.place? right.place?, compare_coe, Option.any_some,
    Ordering.isLE_iff_ne_gt]
  exact compare_gt_iff_gt.not.trans not_lt

/-- What has a value is neither infinite nor NaN. -/
theorem HasValue.isFinite (value : HasValue x a) : x.isNaN = false ∧ x.isInf = false := by
  obtain ⟨negative, m, q, content, -⟩ := value
  rw [exact_eq_ofUnpacked] at content
  change x.toModel.unpack.isNaN = false ∧ x.toModel.unpack.isInf = false
  cases run : x.toModel.unpack with
  | zero | finite => exact ⟨rfl, rfl⟩
  | _ =>
    rw [run] at content
    cases content

theorem HasValue.neg (value : HasValue x a) : HasValue (-x) (-a) := by
  obtain ⟨negative, m, q, content, rfl⟩ := value
  refine ⟨!negative, m, q, by rw [exact_neg, content]; rfl, ?_⟩
  cases negative <;> simp [signedValue]

/-- A number as it is unpacked. -/
theorem HasValue.unpack_cases (value : HasValue x a) : (∃ s, x.toModel.unpack = .zero s ∧ a = 0) ∨
    ∃ s m q pos, x.toModel.unpack = .finite s m q pos ∧ IsCanonical m q ∧ a = (s.apply m : ℤ) * 2 ^ q := by
  obtain ⟨negative, m, q, content, rfl⟩ := value
  have canonical := isCanonical_of_exact content
  rw [exact_eq_ofUnpacked] at content
  cases run : x.toModel.unpack with
  | zero s =>
    rw [run] at content
    cases content
    exact .inl ⟨s, rfl, signedValue_zero ..⟩
  | finite s n r pos =>
    rw [run] at content
    cases content
    exact .inr ⟨s, m, q, pos, rfl, canonical, signedValue_isNegative ..⟩
  | _ =>
    rw [run] at content
    cases content

theorem HasValue.pack_unpack (value : HasValue x a) : HasValue (.ofModel (.pack x.toModel.unpack)) a := by
  obtain ⟨negative, m, q, content, rfl⟩ := value
  refine ⟨negative, m, q, ?_, rfl⟩
  rw [exact_pack (fits_unpack x), ← exact_eq_ofUnpacked, content]

theorem shifted_value (m : ℕ) {e t : ℤ} (le : t ≤ e) : ((m * 2 ^ (e - t).toNat : ℕ) : ℚ) * 2 ^ t = m * 2 ^ e := by
  rw [Nat.cast_mul, Nat.cast_pow, Nat.cast_ofNat, ← zpow_natCast, mul_assoc, ← zpow_add₀ (by norm_num),
    Int.toNat_of_nonneg (by omega), sub_add_cancel]

theorem apply_shiftLeft (s : Sign) (m : ℕ) {e t : ℤ} (le : t ≤ e) :
    ((s.apply (m <<< (e - t).toNat : ℕ) : ℤ) : ℚ) * 2 ^ t = (s.apply m : ℤ) * 2 ^ e := by
  have shifted := shifted_value m le
  rw [← Nat.shiftLeft_eq] at shifted
  cases s with
  | positive => exact_mod_cast shifted
  | negative =>
    simp only [Sign.apply, Int.cast_neg, Int.cast_natCast, neg_mul, shifted]

/-- Sums that are whole numbers of up to 53 binary digits are exact. -/
theorem HasValue.add (left : HasValue x a) (right : HasValue y b) (sum : i = a + b) (small : i.natAbs < 2 ^ 53) :
    HasValue (x + y) i := by
  change HasValue (.ofModel (.pack (UnpackedFloat.add .binary64 x.toModel.unpack y.toModel.unpack))) i
  rcases left.unpack_cases with ⟨s, empty, rfl⟩ | ⟨s, m, q, pos, content, -, rfl⟩ <;>
    rcases right.unpack_cases with ⟨t, empty', rfl⟩ | ⟨t, n, r, pos', content', -, rfl⟩
  · rw [empty, empty', sum, add_zero]
    unfold UnpackedFloat.add
    dsimp only
    split <;> exact hasValue_pack_zero _
  · have same : UnpackedFloat.add .binary64 x.toModel.unpack y.toModel.unpack = y.toModel.unpack := by
      rw [empty, content']
      rfl
    rw [same, sum, zero_add]
    exact right.pack_unpack
  · have same : UnpackedFloat.add .binary64 x.toModel.unpack y.toModel.unpack = x.toModel.unpack := by
      rw [content, empty']
      rfl
    rw [same, sum, add_zero]
    exact left.pack_unpack
  · rw [content, content']
    refine hasValue_normalize ?_ small .positive
    rw [Int.cast_add, add_mul, apply_shiftLeft s m (min_le_left ..), apply_shiftLeft t n (min_le_right ..), sum]

theorem unpacked_sub (u w : UnpackedFloat) : UnpackedFloat.sub .binary64 u w = UnpackedFloat.add .binary64 u w.neg := by
  have double (s : Sign) : - -s = s := by cases s <;> rfl
  have apply_neg (s : Sign) (n : ℤ) : (-s).apply n = -s.apply n := by
    cases s
    · exact (neg_neg n).symm
    · rfl
  rcases u with s | _ | s | ⟨s, m, q, pos⟩ <;> rcases w with t | _ | t | ⟨t, n, r, pos'⟩ <;>
    simp [UnpackedFloat.sub, UnpackedFloat.add, UnpackedFloat.neg, apply_neg, Int.sub_eq_add_neg]

theorem HasValue.sub (left : HasValue x a) (right : HasValue y b) (difference : i = a - b) (small : i.natAbs < 2 ^ 53) :
    HasValue (x - y) i := by
  have opposite : (-y).toModel.unpack = y.toModel.unpack.neg := by
    apply ofUnpacked_injective
    rw [← exact_eq_ofUnpacked, exact_neg, exact_eq_ofUnpacked, ofUnpacked_neg]
  have same : x - y = x + -y := by
    change Float.ofModel (.pack (UnpackedFloat.sub .binary64 x.toModel.unpack y.toModel.unpack)) =
      .ofModel (.pack (UnpackedFloat.add .binary64 x.toModel.unpack (-y).toModel.unpack))
    rw [unpacked_sub, opposite]
  rw [same]
  exact left.add right.neg (by rw [difference, sub_eq_add_neg]) small

end Values

section Whole

variable {x y : Float} {i j : ℤ} {m : ℕ} {q : ℤ}

/-- The significand of a whole number other than zero is full. -/
theorem IsCanonical.full_of_whole (canonical : IsCanonical m q) (pos : 0 < m) {n : ℕ} (whole : (n : ℚ) = m * 2 ^ q) :
    2 ^ 52 ≤ m := by
  refine canonical.full.resolve_right fun least => ?_
  subst least
  have short : (m : ℚ) < 2 ^ 53 := by exact_mod_cast canonical.small
  have positive : (0 : ℚ) < n := by rw [whole]; positivity
  have below : (n : ℚ) < 1 := by
    rw [whole]
    calc (m : ℚ) * 2 ^ (-1074 : ℤ) < 2 ^ 53 * 2 ^ (-1074 : ℤ) := mul_lt_mul_of_pos_right short (by positivity)
      _ = 2 ^ (-1021 : ℤ) := by rw [← zpow_natCast, ← zpow_add₀ (by norm_num)]; rfl
      _ ≤ 1 := zpow_le_one_of_nonpos₀ (by norm_num) (by norm_num)
  norm_cast at positive below
  omega

/-- Products of whole numbers are exact up to 53 binary digits. -/
theorem HasValue.mul (left : HasValue x i) (right : HasValue y j) (small : (i * j).natAbs < 2 ^ 53) :
    HasValue (x * y) (i * j : ℤ) := by
  change HasValue (.ofModel (.pack (UnpackedFloat.mul .binary64 x.toModel.unpack y.toModel.unpack))) _
  rcases left.unpack_cases with ⟨s, empty, zero⟩ | ⟨s, m, q, pos, content, canonical, value⟩
  · obtain rfl : i = 0 := by exact_mod_cast zero
    rw [zero_mul, Int.cast_zero]
    rcases right.unpack_cases with ⟨t, content', -⟩ | ⟨t, n, r, pos', content', -, -⟩ <;>
    · rw [empty, content']
      exact hasValue_pack_zero _
  · rcases right.unpack_cases with ⟨t, empty, zero⟩ | ⟨t, n, r, pos', content', canonical', value'⟩
    · obtain rfl : j = 0 := by exact_mod_cast zero
      rw [content, empty, mul_zero, Int.cast_zero]
      exact hasValue_pack_zero _
    · obtain ⟨size, same⟩ := natAbs_of_apply value
      obtain ⟨size', same'⟩ := natAbs_of_apply value'
      have long : 2 ^ 52 ≤ m * n := (canonical.full_of_whole pos size).trans (Nat.le_mul_of_pos_right m pos')
      have rounded : IsRounded (m * 2 ^ q * (n * 2 ^ r)) _ := mul_rounded pos pos' long
      rw [← size, ← size', ← Nat.cast_mul, ← Int.natAbs_mul] at rounded
      rw [content, content']
      change HasValue (.ofModel (.pack (roundWithAccuracy .binary64 (s * t) (m * n) (q + r) .exact))) _
      rw [roundWithAccuracy_signedBy]
      refine hasValue_pack_signedBy rounded small ?_
      rw [Int.natAbs_mul, apply_mul, same, same']

theorem hasValue_ofInt (small : i.natAbs < 2 ^ 53) : HasValue (ofInt i) i := by
  obtain ⟨m, q, content, value⟩ := exact_ofInt small
  refine ⟨_, m, q, content, ?_⟩
  have place := place?_ofInt small
  rw [Number.place?, content, Exact.place?] at place
  simpa using place

/-- Literals of whole numbers with one zero behind the point. -/
theorem hasValue_literal (n : ℕ) (small : n < 2 ^ 53) : HasValue (Float.ofScientific (n * 10) true 1) (n : ℤ) := by
  obtain ⟨m, q, canonical, value⟩ := exists_canonical small
  have nearest := isNearest_ofScientific (n * 10) true 1
  rw [if_pos rfl, Nat.cast_mul, mul_assoc, Nat.cast_ofNat, Nat.cast_one, zpow_neg_one, mul_inv_cancel₀ (by norm_num),
    mul_one, value] at nearest
  refine ⟨false, m, q, nearest.exact_eq canonical (near_self m q), ?_⟩
  rw [signedValue_false, ← value, Int.cast_natCast]

theorem natAbs_of_signedValue {negative : Bool} (value : signedValue negative m q = i) :
    (i.natAbs : ℚ) = m * 2 ^ q ∧ (if negative then -(i.natAbs : ℤ) else i.natAbs) = i := by
  cases negative with
  | false => exact natAbs_of_apply (s := .positive) (by rw [← value]; exact signedValue_isNegative .positive m q)
  | true => exact natAbs_of_apply (s := .negative) (by rw [← value]; exact signedValue_isNegative .negative m q)

/-- The integer part of a whole number is its value. -/
theorem HasValue.toInt? (value : HasValue x i) : toInt? x = some i := by
  obtain ⟨negative, m, q, content, value⟩ := value
  obtain ⟨size, same⟩ := natAbs_of_signedValue value
  have part := wholePart_eq (whole_of_value size)
  rw [← size, Nat.cast_inj] at part
  rw [Number.toInt?, content]
  dsimp only
  rw [← Nat.cast_ite, part, same]

/-- Whole numbers are not changed by rounding. -/
theorem HasValue.roundWith (value : HasValue x i) {choose : Bool → ℕ → Bool → ℕ}
    (keeps : ∀ negative n, choose negative n false = n) : roundWith choose x = x := by
  obtain ⟨negative, m, q, content, value⟩ := value
  obtain ⟨size, -⟩ := natAbs_of_signedValue value
  rw [Number.roundWith, content]
  dsimp only
  split
  · rfl
  rename_i fractional
  have rest := (whole_of_value size).resolve_left fractional
  have magnitude := cast_div_twoTo (by omega) rest
  rw [rest, bne_self_eq_false, keeps]
  apply exact_injective
  rw [content]
  exact exact_withSign (exact_ofNat (isCanonical_of_exact content) magnitude) negative

theorem HasValue.trunc (value : HasValue x i) : trunc x = x := value.roundWith fun _ _ => rfl

end Whole

end Reckoner.Number
