import Reckoner.Proofs.WholeDivision

namespace Reckoner.Number

open Float.Model (UnpackedFloat Format)
open Float.Model.UnpackedFloat

/-- What digits of a radix add up to, from the first one on. Every step is rounded. -/
def digitSum (radix : ℕ) (values : List ℕ) : Float :=
  values.foldl (fun total value => total * Float.ofNat radix + Float.ofNat value) 0.0

theorem hasValue_ofNat {n : ℕ} (small : n < 2 ^ 53) : HasValue (Float.ofNat n) (n : ℤ) :=
  hasValue_withSign_ofNat small false

section Magnitudes

variable {x y : Float} {u w : UnpackedFloat}

/-- A number that is neither NaN nor negative. -/
def IsMagnitude (x : Float) : Prop := (∃ m q, exact x = .finite false m q) ∨ exact x = .infinite false

/-- An unpacked number that is neither NaN nor negative. -/
inductive UnpackedMagnitude : UnpackedFloat → Prop
  | zero : UnpackedMagnitude (.zero .positive)
  | finite (m : ℕ) (q : ℤ) (pos : 0 < m) : UnpackedMagnitude (.finite .positive m q pos)
  | infinity : UnpackedMagnitude (.infinity .positive)

theorem isMagnitude_iff_unpacked : IsMagnitude x ↔ UnpackedMagnitude x.toModel.unpack := by
  rw [IsMagnitude, exact_eq_ofUnpacked]
  generalize x.toModel.unpack = u
  constructor
  · intro magnitude
    cases u with
    | notANumber => simp [Exact.ofUnpacked] at magnitude
    | infinity s | zero s | finite s m q pos =>
      cases s with
      | positive => constructor
      | negative => simp [Exact.ofUnpacked, isNegative] at magnitude
  · intro magnitude
    cases magnitude with
    | zero => exact .inl ⟨0, -1074, rfl⟩
    | finite m q pos => exact .inl ⟨m, q, rfl⟩
    | infinity => exact .inr rfl

theorem IsNearest.isMagnitude {v : ℚ} (nearest : IsNearest v x) : IsMagnitude x :=
  nearest.cases.imp_right And.left

theorem isMagnitude_ofNat (n : ℕ) : IsMagnitude (Float.ofNat n) := (isNearest_ofNat n).isMagnitude

theorem IsMagnitude.isNaN (magnitude : IsMagnitude x) : x.isNaN = false := by
  have unpacked := isMagnitude_iff_unpacked.1 magnitude
  change x.toModel.unpack.isNaN = false
  generalize x.toModel.unpack = u at unpacked
  cases unpacked <;> rfl

theorem IsMagnitude.isNaN_withSign (magnitude : IsMagnitude x) (negative : Bool) :
    (withSign negative x).isNaN = false := by
  cases negative with
  | false => exact magnitude.isNaN
  | true =>
    rw [Bool.eq_false_iff, ne_eq, ← place?_eq_none_iff]
    change place? (-x) ≠ none
    rw [place?, exact_neg]
    rcases magnitude with ⟨m, q, content⟩ | content <;>
    · rw [content]
      exact Option.some_ne_none _

theorem isMagnitude_zero : IsMagnitude 0.0 := .inl ⟨_, _, exact_zero⟩

theorem isMagnitude_pack_zero : IsMagnitude (.ofModel (.pack (.zero .positive))) :=
  .inl ⟨_, _, exact_pack (u := .zero .positive) trivial⟩

theorem isMagnitude_pack_infinity : IsMagnitude (.ofModel (.pack (.infinity .positive))) :=
  .inr (exact_pack (u := .infinity .positive) trivial)

theorem IsMagnitude.pack_unpack (magnitude : IsMagnitude x) : IsMagnitude (.ofModel (.pack x.toModel.unpack)) := by
  rw [IsMagnitude, exact_pack (fits_unpack x), ← exact_eq_ofUnpacked]
  exact magnitude

/-- The product with a positive whole number. This factor has all bits of its significand, so that the product has
enough of them, too. -/
theorem IsMagnitude.mul (magnitude : IsMagnitude x) {n : ℕ} (pos : 0 < n) (small : n < 2 ^ 53) :
    IsMagnitude (x * Float.ofNat n) := by
  obtain ⟨m, q, canonical, value⟩ := exists_canonical small
  have positive : 0 < m := Nat.pos_of_ne_zero fun zero => by
    rw [zero, Nat.cast_zero, zero_mul, Nat.cast_eq_zero] at value
    omega
  have factor := unpack_of_exact (exact_ofNat canonical value) positive
  have unpacked := isMagnitude_iff_unpacked.1 magnitude
  change IsMagnitude (.ofModel (.pack (UnpackedFloat.mul .binary64 x.toModel.unpack (Float.ofNat n).toModel.unpack)))
  rw [factor]
  generalize x.toModel.unpack = u at unpacked
  cases unpacked with
  | zero => exact isMagnitude_pack_zero
  | infinity => exact isMagnitude_pack_infinity
  | finite k r pos' =>
    have long := (canonical.full_of_whole positive value).trans (Nat.le_mul_of_pos_left m pos')
    exact (mul_rounded pos' positive long).isNearest.isMagnitude

theorem normalize_natCast {k : ℕ} (pos : 0 < k) (e : ℤ) (s : Sign) :
    UnpackedFloat.normalize .binary64 k e s = UnpackedFloat.round .binary64 .positive k e := by
  have positive : compare (k : ℤ) 0 = .gt := compare_gt_iff_gt.2 (Int.natCast_pos.2 pos)
  rw [UnpackedFloat.normalize, positive]
  rfl

theorem IsMagnitude.add (left : IsMagnitude x) (right : IsMagnitude y) : IsMagnitude (x + y) := by
  have keepLeft := left.pack_unpack
  have keepRight := right.pack_unpack
  have unpacked := isMagnitude_iff_unpacked.1 left
  have unpacked' := isMagnitude_iff_unpacked.1 right
  change IsMagnitude (.ofModel (.pack (UnpackedFloat.add .binary64 x.toModel.unpack y.toModel.unpack)))
  generalize x.toModel.unpack = u at *
  generalize y.toModel.unpack = w at *
  cases unpacked with
  | zero =>
    cases unpacked' with
    | zero => exact isMagnitude_pack_zero
    | finite => exact keepRight
    | infinity => exact isMagnitude_pack_infinity
  | infinity => cases unpacked' <;> exact isMagnitude_pack_infinity
  | finite m q pos =>
    cases unpacked' with
    | zero => exact keepLeft
    | infinity => exact isMagnitude_pack_infinity
    | finite n r pos' =>
      have shifted {k : ℕ} (pos : 0 < k) (e : ℕ) : 0 < k <<< e := by
        rw [Nat.shiftLeft_eq]
        positivity
      have sum : UnpackedFloat.add .binary64 (.finite .positive m q pos) (.finite .positive n r pos') =
          UnpackedFloat.normalize .binary64
            ((m <<< (q - min q r).toNat + n <<< (r - min q r).toNat : ℕ) : ℤ) (min q r) .positive := by
        rw [Nat.cast_add]
        rfl
      rw [sum, normalize_natCast (Nat.add_pos_left (shifted pos _) _)]
      exact (round_rounded (Nat.add_pos_left (shifted pos _) _) _).isNearest.isMagnitude

end Magnitudes

section Digits

variable {radix total : ℕ} {values : List ℕ} {x : Float}

theorem isMagnitude_digitSum (pos : 0 < radix) (small : radix < 2 ^ 53) : IsMagnitude (digitSum radix values) := by
  have step (x : Float) (magnitude : IsMagnitude x) :
      IsMagnitude (values.foldl (fun total value => total * Float.ofNat radix + Float.ofNat value) x) := by
    induction values generalizing x with
    | nil => exact magnitude
    | cons value values ih => exact ih _ ((magnitude.mul pos small).add (isMagnitude_ofNat value))
  exact step _ isMagnitude_zero

theorem le_foldl_digits (pos : 0 < radix) (values : List ℕ) (total : ℕ) :
    total ≤ values.foldl (fun total value => total * radix + value) total := by
  induction values generalizing total with
  | nil => exact le_rfl
  | cons value values ih =>
    refine le_trans ?_ (ih (total * radix + value))
    exact Nat.le_add_right_of_le (Nat.le_mul_of_pos_right total pos)

/-- Sums are exact as long as they are below `2 ^ 53`. -/
theorem HasValue.foldl_digits (value : HasValue x (total : ℤ)) (pos : 0 < radix)
    (digits : ∀ v ∈ values, v < 2 ^ 53) (small' : radix < 2 ^ 53)
    (small : values.foldl (fun total value => total * radix + value) total < 2 ^ 53) :
    HasValue (values.foldl (fun total value => total * Float.ofNat radix + Float.ofNat value) x)
      (values.foldl (fun total value => total * radix + value) total : ℕ) := by
  induction values generalizing x total with
  | nil => exact value
  | cons v values ih =>
    obtain ⟨first, later⟩ := List.forall_mem_cons.1 digits
    have below := le_foldl_digits pos values (total * radix + v)
    rw [List.foldl_cons] at small
    have product : HasValue (x * Float.ofNat radix) (total * radix : ℕ) := by
      exact_mod_cast value.mul (hasValue_ofNat small') (by omega)
    have sum := product.add (hasValue_ofNat first) (i := (total * radix + v : ℕ)) (by push_cast; ring) (by omega)
    exact ih sum later small

/-- The digits of a number below `2 ^ 53` add up to that number. -/
theorem hasValue_digitSum {n : ℕ} (pos : 0 < radix) (small : radix < 2 ^ 53) (digits : ∀ v ∈ values, v < radix)
    (value : Nat.ofDigits radix values.reverse = n) (below : n < 2 ^ 53) :
    HasValue (digitSum radix values) (n : ℤ) := by
  have sum : values.foldl (fun total value => total * radix + value) 0 = n := by
    rw [← value, Nat.ofDigits_eq_foldr, List.foldr_reverse]
    refine List.foldl_ext _ _ _ fun total v _ => ?_
    rw [Nat.cast_id, Nat.add_comm, Nat.mul_comm]
  have zero : HasValue 0.0 ((0 : ℕ) : ℤ) := hasValue_literal 0 (by decide)
  rw [← sum]
  exact zero.foldl_digits pos (fun v member => (digits v member).trans small) small (sum.trans_lt below)

end Digits

end Reckoner.Number
