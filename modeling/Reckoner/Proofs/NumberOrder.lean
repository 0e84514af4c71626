import Reckoner.Proofs.NearestNumber
import Reckoner.Value.Operators

namespace Reckoner.Number

open Float.Model (UnpackedFloat)
open Float.Model.UnpackedFloat

/-- The rational number that a finite number is. -/
def signedValue (negative : Bool) (m : ℕ) (q : ℤ) : ℚ := (if negative then -(m : ℚ) else m) * 2 ^ q

/-- The place of a number among the rational numbers, with the infinities at the ends. -/
def Exact.place? : Exact → Option (WithBot (WithTop ℚ))
  | .nan => none
  | .infinite negative => some (if negative then ⊥ else ⊤)
  | .finite negative m q => some ((signedValue negative m q : WithTop ℚ) : WithBot (WithTop ℚ))

section Order

variable {m n : ℕ} {q r : ℤ}

theorem compare_map {α β : Type} [LinearOrder α] [LinearOrder β] {f : α → β} (mono : StrictMono f) (a b : α) :
    compare (f a) (f b) = compare a b := by
  rw [← cmp_eq_compare, ← cmp_eq_compare, mono.cmp_map_eq]

theorem compare_neg (a b : ℚ) : compare (-a) (-b) = (compare a b).swap := by
  have anti : StrictAnti fun a : ℚ => -a := fun _ _ => neg_lt_neg
  rw [← cmp_eq_compare, ← cmp_eq_compare, anti.cmp_map_eq, cmp_swap]

/-- Exponents are compared first. -/
theorem compare_placed (left : IsPlaced m q) (right : IsPlaced n r) :
    (compare q r).then (compare m n) = compare ((m : ℚ) * 2 ^ q) (n * 2 ^ r) := by
  rcases lt_trichotomy q r with less | rfl | greater
  · rw [compare_lt_iff_lt.2 less, compare_lt_iff_lt.2 (left.lt_of_exponent_lt right less)]
    rfl
  · have mono : StrictMono fun k : ℕ => (k : ℚ) * 2 ^ q := fun _ _ less =>
      mul_lt_mul_of_pos_right (Nat.cast_lt.2 less) (by positivity)
    rw [compare_eq_iff_eq.2 rfl, ← compare_map mono]
    rfl
  · rw [compare_gt_iff_gt.2 greater, compare_gt_iff_gt.2 (right.lt_of_exponent_lt left greater)]
    rfl

theorem compare_coe (a b : ℚ) :
    compare ((a : WithTop ℚ) : WithBot (WithTop ℚ)) ((b : WithTop ℚ) : WithBot (WithTop ℚ)) = compare a b :=
  compare_map (WithBot.coe_strictMono.comp WithTop.coe_strictMono) a b

theorem coe_lt_top (a : ℚ) : ((a : WithTop ℚ) : WithBot (WithTop ℚ)) < ⊤ :=
  WithBot.coe_lt_coe.2 (WithTop.coe_lt_top a)

theorem bot_lt_coe (a : ℚ) : ⊥ < ((a : WithTop ℚ) : WithBot (WithTop ℚ)) := WithBot.bot_lt_coe _

theorem signedValue_zero (negative : Bool) (q : ℤ) : signedValue negative 0 q = 0 := by
  cases negative <;> simp [signedValue]

theorem signedValue_pos (pos : 0 < m) (q : ℤ) : 0 < signedValue false m q := by
  have numerator : (0 : ℚ) < m := Nat.cast_pos.2 pos
  simp only [signedValue, if_neg Bool.false_ne_true]
  positivity

theorem signedValue_true (m : ℕ) (q : ℤ) : signedValue true m q = -signedValue false m q := by
  simp [signedValue]

theorem signedValue_neg (pos : 0 < m) (q : ℤ) : signedValue true m q < 0 := by
  rw [signedValue_true]
  exact neg_lt_zero.2 (signedValue_pos pos q)

theorem signedValue_false (m : ℕ) (q : ℤ) : signedValue false m q = m * 2 ^ q := by
  rw [signedValue, if_neg Bool.false_ne_true]

end Order

/-- Two finite numbers are compared as the rational numbers that they are. -/
theorem compare_finite {s t : Sign} {m n : ℕ} {q r : ℤ} {pos : 0 < m} {pos' : 0 < n} (left : IsPlaced m q)
    (right : IsPlaced n r) : (UnpackedFloat.finite s m q pos).compare (.finite t n r pos') =
      some (compare (signedValue (isNegative s) m q) (signedValue (isNegative t) n r)) := by
  cases s with
  | positive =>
    cases t with
    | positive => rw [isNegative, signedValue_false, signedValue_false, ← compare_placed left right]; rfl
    | negative =>
      rw [isNegative, isNegative, compare_gt_iff_gt.2 ((signedValue_neg pos' r).trans (signedValue_pos pos q))]
      rfl
  | negative =>
    cases t with
    | positive =>
      rw [isNegative, isNegative, compare_lt_iff_lt.2 ((signedValue_neg pos q).trans (signedValue_pos pos' r))]
      rfl
    | negative =>
      rw [isNegative, signedValue_true, signedValue_true, compare_neg, signedValue_false, signedValue_false,
        ← compare_placed left right]
      rfl

/-- The library's comparison goes by the places of numbers. -/
theorem compare_unpacked {a b : UnpackedFloat} (fits : Fits a) (fits' : Fits b) {u v : WithBot (WithTop ℚ)}
    (left : (Exact.ofUnpacked a).place? = some u) (right : (Exact.ofUnpacked b).place? = some v) :
    a.compare b = some (compare u v) := by
  cases a with
  | infinity s =>
    cases left
    cases b with
    | infinity t =>
      cases right
      cases s <;> cases t <;> rfl
    | notANumber => cases right
    | zero | finite =>
      cases right
      cases s with
      | positive => exact congrArg some (compare_gt_iff_gt.2 (coe_lt_top _)).symm
      | negative => exact congrArg some (compare_lt_iff_lt.2 (bot_lt_coe _)).symm
  | notANumber => cases left
  | zero s =>
    cases left
    cases b with
    | infinity t =>
      cases right
      cases t with
      | positive => exact congrArg some (compare_lt_iff_lt.2 (coe_lt_top _)).symm
      | negative => exact congrArg some (compare_gt_iff_gt.2 (bot_lt_coe _)).symm
    | notANumber => cases right
    | zero t =>
      cases right
      rw [compare_coe, signedValue_zero, signedValue_zero]
      rfl
    | finite t n r pos =>
      cases right
      rw [compare_coe, signedValue_zero]
      cases t with
      | positive => exact congrArg some (compare_lt_iff_lt.2 (signedValue_pos pos r)).symm
      | negative => exact congrArg some (compare_gt_iff_gt.2 (signedValue_neg pos r)).symm
  | finite s m q pos =>
    cases left
    cases b with
    | infinity t =>
      cases right
      cases t with
      | positive => cases s <;> exact congrArg some (compare_lt_iff_lt.2 (coe_lt_top _)).symm
      | negative => cases s <;> exact congrArg some (compare_gt_iff_gt.2 (bot_lt_coe _)).symm
    | notANumber => cases right
    | zero t =>
      cases right
      rw [compare_coe, signedValue_zero]
      cases s with
      | positive => exact congrArg some (compare_gt_iff_gt.2 (signedValue_pos pos q)).symm
      | negative => exact congrArg some (compare_lt_iff_lt.2 (signedValue_neg pos q)).symm
    | finite t n r pos' =>
      cases right
      rw [compare_coe]
      exact compare_finite (IsCanonical.placed fits) (IsCanonical.placed fits')

/-- The place of a number; NaN has none. -/
def place? (x : Float) : Option (WithBot (WithTop ℚ)) := (exact x).place?

section Floats

variable {x y : Float} {u v : WithBot (WithTop ℚ)}

theorem place?_eq_none_iff (x : Float) : place? x = none ↔ x.isNaN = true := by
  change _ ↔ x.toModel.unpack.isNaN = true
  rw [place?, exact_eq_ofUnpacked]
  cases x.toModel.unpack <;> simp [Exact.ofUnpacked, Exact.place?, UnpackedFloat.isNaN]

theorem unpacked_compare (left : place? x = some u) (right : place? y = some v) :
    x.toModel.unpack.compare y.toModel.unpack = some (compare u v) := by
  rw [place?, exact_eq_ofUnpacked] at left right
  exact compare_unpacked (fits_unpack x) (fits_unpack y) left right

theorem lt_iff_place (left : place? x = some u) (right : place? y = some v) : x < y ↔ u < v := by
  have order : x < y ↔ (x.toModel.unpack.compare y.toModel.unpack == some .lt) = true := decide_eq_true_iff
  rw [order, unpacked_compare left right, beq_iff_eq, Option.some_inj, compare_lt_iff_lt]

theorem beq_iff_place (left : place? x = some u) (right : place? y = some v) : (x == y) = true ↔ u = v := by
  have order : (x == y) = (x.toModel.unpack.compare y.toModel.unpack == some .eq) := rfl
  rw [order, unpacked_compare left right, beq_iff_eq, Option.some_inj, compare_eq_iff_eq]

/-- Numbers other than NaN are compared as their places. -/
theorem compare?_eq (left : place? x = some u) (right : place? y = some v) : compare? x y = some (compare u v) := by
  rw [compare?]
  rcases lt_trichotomy u v with less | same | greater
  · rw [if_pos ((lt_iff_place left right).2 less), compare_lt_iff_lt.2 less]
  · rw [if_neg fun less => ((lt_iff_place left right).1 less).ne same,
      if_neg fun greater => ((lt_iff_place right left).1 greater).ne same.symm,
      if_pos ((beq_iff_place left right).2 same), compare_eq_iff_eq.2 same]
  · rw [if_neg fun less => ((lt_iff_place left right).1 less).not_gt greater,
      if_pos ((lt_iff_place right left).2 greater), compare_gt_iff_gt.2 greater]

theorem unpacked_compare_none {a b : UnpackedFloat} (nan : a.isNaN = true ∨ b.isNaN = true) : a.compare b = none := by
  cases a <;> cases b <;> simp [UnpackedFloat.isNaN] at nan <;> rfl

/-- NaN is not compared with anything. -/
theorem compare?_eq_none (nan : x.isNaN = true ∨ y.isNaN = true) : compare? x y = none := by
  have none_order : x.toModel.unpack.compare y.toModel.unpack = none := unpacked_compare_none nan
  have none_order' : y.toModel.unpack.compare x.toModel.unpack = none := unpacked_compare_none nan.symm
  have not_less : ¬x < y := fun less =>
    absurd ((congrArg (· == some Ordering.lt) none_order).symm.trans (of_decide_eq_true less)) nofun
  have not_greater : ¬y < x := fun less =>
    absurd ((congrArg (· == some Ordering.lt) none_order').symm.trans (of_decide_eq_true less)) nofun
  have not_equal : ¬(x == y) = true := fun equal =>
    absurd ((congrArg (· == some Ordering.eq) none_order).symm.trans equal) nofun
  rw [compare?, if_neg not_less, if_neg not_greater, if_neg not_equal]

/-- Exchanging two numbers turns their order round. -/
theorem compare?_swap (x y : Float) : compare? y x = (compare? x y).map Ordering.swap := by
  cases left : place? x with
  | none =>
    have nan := (place?_eq_none_iff x).1 left
    rw [compare?_eq_none (.inl nan), compare?_eq_none (.inr nan)]
    rfl
  | some u =>
    cases right : place? y with
    | none =>
      have nan := (place?_eq_none_iff y).1 right
      rw [compare?_eq_none (.inl nan), compare?_eq_none (.inr nan)]
      rfl
    | some v =>
      rw [compare?_eq left right, compare?_eq right left, Option.map_some, ← cmp_eq_compare, ← cmp_eq_compare, cmp_swap]

end Floats

section Integers

variable {n : ℤ}

/-- Whole numbers of up to 53 binary digits are numbers. -/
theorem exists_canonical {n : ℕ} (small : n < 2 ^ 53) : ∃ m q, IsCanonical m q ∧ (n : ℚ) = m * 2 ^ q := by
  rcases n.eq_zero_or_pos with rfl | pos
  · exact ⟨0, -1074, ⟨by decide, by decide, by decide, .inr rfl⟩, by simp⟩
  · obtain ⟨long, short⟩ := scaled_bounds pos small
    refine ⟨n * 2 ^ (52 - n.log2), -(52 - n.log2 : ℕ), ⟨short, by omega, by omega, .inl long⟩, ?_⟩
    rw [zpow_neg, zpow_natCast]
    push_cast
    field_simp

theorem exact_ofInt (small : n.natAbs < 2 ^ 53) :
    ∃ m q, exact (ofInt n) = .finite (decide (n < 0)) m q ∧ (n.natAbs : ℚ) = m * 2 ^ q := by
  obtain ⟨m, q, canonical, value⟩ := exists_canonical small
  exact ⟨m, q, exact_withSign (exact_ofNat canonical value) _, value⟩

theorem place?_ofInt (small : n.natAbs < 2 ^ 53) :
    place? (ofInt n) = some (((n : ℚ) : WithTop ℚ) : WithBot (WithTop ℚ)) := by
  obtain ⟨m, q, content, value⟩ := exact_ofInt small
  rw [place?, content, Exact.place?]
  have whole : signedValue (decide (n < 0)) m q = n := by
    rcases lt_or_ge n 0 with negative | nonnegative
    · rw [decide_eq_true negative, signedValue_true, signedValue_false, ← value, Nat.cast_natAbs, abs_of_neg negative]
      push_cast
      exact neg_neg _
    · rw [decide_eq_false (not_lt.2 nonnegative), signedValue_false, ← value, Nat.cast_natAbs,
      abs_of_nonneg nonnegative]
  rw [whole]

theorem whole_of_value {k m : ℕ} {q : ℤ} (value : (k : ℚ) = m * 2 ^ q) : 0 ≤ q ∨ m % twoTo (-q).toNat = 0 := by
  rcases le_or_gt 0 q with nonneg | negative
  · exact .inl nonneg
  · have scaled : (m : ℚ) = (k * twoTo (-q).toNat : ℕ) := by
      rw [Nat.cast_mul, twoTo_cast, value, ← zpow_natCast, Int.toNat_of_nonneg (by omega), mul_assoc,
        ← zpow_add₀ (by norm_num), add_neg_cancel, zpow_zero, mul_one]
    rw [Nat.cast_inj.1 scaled]
    exact .inr (Nat.mul_mod_left ..)

/-- An integer is found again as the integer part of its number. -/
theorem toInt?_ofInt (small : n.natAbs < 2 ^ 53) : toInt? (ofInt n) = some n := by
  obtain ⟨m, q, content, value⟩ := exact_ofInt small
  have part := wholePart_eq (whole_of_value value)
  rw [← value, Nat.cast_inj] at part
  rw [toInt?, content]
  dsimp only
  rw [← Nat.cast_ite, part]
  rcases lt_or_ge n 0 with negative | nonneg
  · rw [decide_eq_true negative, if_pos rfl]
    congr 1
    omega
  · rw [decide_eq_false (not_lt.2 nonneg), if_neg Bool.false_ne_true]
    congr 1
    omega

/-- Integers of up to 53 binary digits are ordered as their numbers. -/
theorem compare?_ofInt {k : ℤ} (small : n.natAbs < 2 ^ 53) (small' : k.natAbs < 2 ^ 53) :
    compare? (ofInt n) (ofInt k) = some (compare n k) := by
  rw [compare?_eq (place?_ofInt small) (place?_ofInt small'), compare_coe]
  exact congrArg some (compare_map (fun _ _ => Int.cast_lt.2) n k)

end Integers

end Reckoner.Number
