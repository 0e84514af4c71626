import Reckoner.Library.Methods
import Reckoner.Proofs.ExactArithmetic

namespace Reckoner

namespace Number

/-- A rational number without its fraction. -/
def truncate (v : ℚ) : ℤ := if 0 ≤ v then ⌊v⌋ else ⌈v⌉

/-- The integers, with the infinities at the ends. -/
abbrev Extended := WithBot (WithTop ℤ)

/-- An integer among them. -/
def Extended.ofInt (n : ℤ) : Extended := ((n : WithTop ℤ) : WithBot (WithTop ℤ))

/-- The integer part of a number that is not NaN, and zero for NaN. -/
def integerPlace (x : Float) : Extended :=
  match place? x with
  | some v => v.map (WithTop.map truncate)
  | none => 0

/-- A position is an integer brought between zero and a length. -/
def Extended.IsClamped (t : Extended) (length q : ℕ) : Prop := ofInt q = max 0 (min t (ofInt length))

/-- A position is an integer brought between zero and a length, and counted from the length if it is negative. -/
def Extended.IsRelative (t : Extended) (length q : ℕ) : Prop :=
  if t < 0 then (ofInt length + t).IsClamped length q else t.IsClamped length q

namespace Extended

variable {length q : ℕ} {n m : ℤ}

theorem zero_eq : (0 : Extended) = ofInt 0 := rfl

/-- Between the two infinities the order and the sums are those of the integers. -/
theorem ofInt_strictMono : StrictMono ofInt := WithBot.coe_strictMono.comp WithTop.coe_strictMono

theorem ofInt_lt_iff : ofInt n < ofInt m ↔ n < m := ofInt_strictMono.lt_iff_lt

theorem ofInt_lt_zero_iff : ofInt n < 0 ↔ n < 0 := ofInt_lt_iff

theorem ofInt_inj : ofInt n = ofInt m ↔ n = m := ofInt_strictMono.injective.eq_iff

theorem ofInt_add (n m : ℤ) : ofInt n + ofInt m = ofInt (n + m) := rfl

theorem ofInt_lt_top (n : ℤ) : ofInt n < ⊤ := WithBot.coe_lt_coe.2 (WithTop.coe_lt_top n)

theorem bot_lt_ofInt (n : ℤ) : ⊥ < ofInt n := WithBot.bot_lt_coe _

/-- The three cases of a position: an integer is brought between zero and the length, and the infinities are brought to
the two ends. There are three more for relative positions. -/
theorem isClamped_ofInt : (ofInt n).IsClamped length q ↔ q = min n.toNat length := by
  rw [IsClamped, zero_eq, ← ofInt_strictMono.monotone.map_min, ← ofInt_strictMono.monotone.map_max, ofInt_inj]
  omega

theorem isClamped_top (length : ℕ) : (⊤ : Extended).IsClamped length length := by
  rw [IsClamped, min_eq_right (ofInt_lt_top _).le, zero_eq, ← ofInt_strictMono.monotone.map_max,
    max_eq_right (Int.natCast_nonneg length)]

theorem isClamped_bot (length : ℕ) : (⊥ : Extended).IsClamped length 0 := by
  rw [IsClamped, min_eq_left (bot_lt_ofInt _).le, max_eq_left bot_le]
  rfl

theorem isRelative_ofInt :
    (ofInt n).IsRelative length q ↔ q = if n < 0 then (length + n).toNat else min n.toNat length := by
  rw [IsRelative]
  by_cases negative : n < 0
  · rw [if_pos (ofInt_lt_zero_iff.2 negative), if_pos negative, ofInt_add, isClamped_ofInt]
    omega
  · rw [if_neg (ofInt_lt_zero_iff.not.2 negative), if_neg negative, isClamped_ofInt]

theorem isRelative_top (length : ℕ) : (⊤ : Extended).IsRelative length length := by
  have nonnegative : ¬(⊤ : Extended) < 0 := (ofInt_lt_top 0).not_gt
  rw [IsRelative, if_neg nonnegative]
  exact isClamped_top length

theorem isRelative_bot (length : ℕ) : (⊥ : Extended).IsRelative length 0 := by
  have negative : (⊥ : Extended) < 0 := bot_lt_ofInt 0
  rw [IsRelative, if_pos negative, WithBot.add_bot]
  exact isClamped_bot length

/-- An extended integer is an infinity or an integer. -/
theorem cases (t : Extended) : t = ⊥ ∨ t = ⊤ ∨ ∃ n, t = ofInt n := by
  match t with
  | ⊥ => exact .inl rfl
  | (⊤ : WithTop ℤ) => exact .inr (.inl rfl)
  | ((n : ℤ) : WithTop ℤ) => exact .inr (.inr ⟨n, rfl⟩)

theorem IsClamped.unique {t : Extended} {r : ℕ} (one : t.IsClamped length q) (other : t.IsClamped length r) : q = r :=
  Nat.cast_injective (ofInt_strictMono.injective (one.trans other.symm))

/-- A position is not behind the end. -/
theorem IsClamped.le {t : Extended} (place : t.IsClamped length q) : q ≤ length := by
  have above : ofInt q ≤ ofInt length := by
    rw [place]
    exact max_le (ofInt_strictMono.monotone (Int.natCast_nonneg length)) (min_le_right ..)
  exact_mod_cast ofInt_strictMono.le_iff_le.1 above

theorem IsRelative.le {t : Extended} (place : t.IsRelative length q) : q ≤ length := by
  unfold IsRelative at place
  split at place <;> exact place.le

end Extended

section Parts

variable {x : Float} {negative : Bool} {m : ℕ} {q : ℤ}

/-- The integer part of a number with an exponent: digits are appended below the point, or cut off. -/
theorem truncate_natCast_mul (m : ℕ) (q : ℤ) :
    truncate (m * 2 ^ q) = (if 0 ≤ q then m * twoTo q.toNat else m / twoTo (-q).toNat : ℕ) := by
  rw [truncate, if_pos (by positivity)]
  split
  · rename_i whole
    have value := wholePart_eq (m := m) (.inl whole)
    rw [if_pos whole] at value
    rw [← value, Int.floor_natCast]
  · rename_i fractional
    have unit : (m : ℚ) * 2 ^ q = (m : ℤ) / (twoTo (-q).toNat : ℕ) := by
      rw [twoTo_cast, ← zpow_natCast, Int.toNat_of_nonneg (by omega), zpow_neg, div_inv_eq_mul, Int.cast_natCast]
    rw [unit, Rat.floor_intCast_div_natCast]
    rfl

theorem truncate_neg (v : ℚ) : truncate (-v) = -truncate v := by
  unfold truncate
  rcases lt_trichotomy v 0 with less | rfl | greater
  · rw [if_pos (by linarith), if_neg (by linarith), Int.floor_neg]
  · simp
  · rw [if_neg (by linarith), if_pos greater.le, Int.ceil_neg]

/-- The integer part is computed from the significand and the exponent. Fractions are cut off towards zero, below zero
as well. -/
theorem toInt?_eq_truncate (content : exact x = .finite negative m q) :
    toInt? x = some (truncate (signedValue negative m q)) := by
  rw [toInt?, content]
  dsimp only
  rw [← Nat.cast_ite, ← truncate_natCast_mul, ← signedValue_false]
  cases negative with
  | false => rfl
  | true => rw [if_pos rfl, signedValue_true, truncate_neg]

/-- NaN counts as zero where a position is asked for. -/
theorem integerPlace_of_nan (content : exact x = .nan) : integerPlace x = .ofInt 0 := by
  rw [integerPlace, place?, content]
  rfl

theorem integerPlace_of_infinite (content : exact x = .infinite negative) :
    integerPlace x = if negative then ⊥ else ⊤ := by
  rw [integerPlace, place?, content]
  cases negative <;> rfl

theorem integerPlace_of_finite (content : exact x = .finite negative m q) :
    integerPlace x = .ofInt (truncate (signedValue negative m q)) := by
  rw [integerPlace, place?, content]
  rfl

/-- A number that is an integer is its own integer part. -/
theorem HasValue.integerPlace {n : ℤ} (value : HasValue x n) : integerPlace x = .ofInt n := by
  obtain ⟨negative, m, q, content, value⟩ := value
  rw [integerPlace_of_finite content, value, truncate]
  simp

end Parts

end Number

namespace Value

open Number

/-- Positions are integer parts between zero and the length. -/
theorem isClamped_position (length : ℕ) (x : Float) : (integerPlace x).IsClamped length (position length x) := by
  unfold position
  cases content : exact x with
  | nan =>
    rw [integerPlace_of_nan content, Extended.isClamped_ofInt]
    simp
  | infinite negative =>
    rw [integerPlace_of_infinite content]
    cases negative with
    | false => exact Extended.isClamped_top length
    | true => exact Extended.isClamped_bot length
  | finite negative m q =>
    rw [integerPlace_of_finite content, Extended.isClamped_ofInt, toInt?_eq_truncate content]
    rfl

/-- Relative positions count from the end where the integer part is negative. -/
theorem isRelative_relativePosition (length : ℕ) (x : Float) :
    (integerPlace x).IsRelative length (relativePosition length x) := by
  have special (fractional : toInt? x = none) : relativePosition length x = position length x := by
    rw [relativePosition, fractional]
  cases content : exact x with
  | nan =>
    rw [special (by rw [toInt?, content]), position, content, integerPlace_of_nan content, Extended.isRelative_ofInt]
    simp
  | infinite negative =>
    rw [special (by rw [toInt?, content]), position, content, integerPlace_of_infinite content]
    cases negative with
    | false => exact Extended.isRelative_top length
    | true => exact Extended.isRelative_bot length
  | finite negative m q =>
    rw [integerPlace_of_finite content, Extended.isRelative_ofInt, relativePosition, toInt?_eq_truncate content]

/-- A position in a sequence that an optional argument stands for. An absent argument stands for one of its own. -/
def IsPositionOr (missing length : ℕ) (isPlace : Extended → ℕ → ℕ → Prop) (v : Value) (q : ℕ) : Prop :=
  q ≤ length ∧
    match v with
    | .undefined => q = missing
    | v => isPlace (integerPlace v.toNumber) length q

section Arguments

variable {missing length : ℕ}

theorem isPositionOr_positionOr {place : ℕ → Float → ℕ} {isPlace : Extended → ℕ → ℕ → Prop}
    (isPlace_place : ∀ x, isPlace (integerPlace x) length (place length x)) (le : ∀ x, place length x ≤ length)
    (inside : missing ≤ length) (v : Value) :
    IsPositionOr missing length isPlace v (positionOr missing length place v) := by
  cases v with
  | undefined => exact ⟨inside, rfl⟩
  | _ => exact ⟨le _, isPlace_place _⟩

/-- The two kinds of positions that methods of texts and arrays take: `substring` counts from the start, while `slice`
counts from the end as well. -/
theorem isPositionOr_position (inside : missing ≤ length) (v : Value) :
    IsPositionOr missing length Extended.IsClamped v (positionOr missing length position v) :=
  isPositionOr_positionOr (isClamped_position length) (fun x => (isClamped_position length x).le) inside v

theorem isPositionOr_relativePosition (inside : missing ≤ length) (v : Value) :
    IsPositionOr missing length Extended.IsRelative v (positionOr missing length relativePosition v) :=
  isPositionOr_positionOr (isRelative_relativePosition length) (fun x => (isRelative_relativePosition length x).le)
    inside v

end Arguments

end Value

end Reckoner
