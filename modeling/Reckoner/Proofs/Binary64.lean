import Mathlib
import Reckoner.Number.Binary

/-! The lemmas on the core library's floating point numbers stand in Batteries, which only the whole of Mathlib
imports. -/

namespace Reckoner.Number

open Float.Model (UnpackedFloat Format)
open Float.Model.UnpackedFloat

/-- The content for the three fields of the bits. -/
def Exact.ofFields (negative : Bool) (field fraction : ℕ) : Exact :=
  if field = 2047 then if fraction = 0 then .infinite negative else .nan
  else if field = 0 then .finite negative fraction (-1074)
  else .finite negative (2 ^ 52 + fraction) ((field : ℤ) - 1075)

/-- The bits of a number are a sign, eleven bits of exponent and fifty-two bits of fraction. -/
theorem ofBits_eq_ofFields (bits : ℕ) :
    Exact.ofBits bits = .ofFields (bits / 2 ^ 63 == 1) (bits / 2 ^ 52 % 2 ^ 11) (bits % 2 ^ 52) := rfl

/-- The significands and exponents of finite numbers. All bits of the significand count unless the exponent is the
least one. -/
structure IsCanonical (m : ℕ) (q : ℤ) : Prop where
  small : m < 2 ^ 53
  least : -1074 ≤ q
  greatest : q ≤ 971
  full : 2 ^ 52 ≤ m ∨ q = -1074

/-- What stands in the fields of a finite number is canonical: the fraction is below 2^52, and a leading bit is added to
it exactly if the exponent field is not zero. -/
theorem isCanonical_of_exact {x : Float} {negative : Bool} {m : ℕ} {q : ℤ}
    (content : exact x = .finite negative m q) : IsCanonical m q := by
  rw [exact, ofBits_eq_ofFields] at content
  have fraction : x.toBits.toNat % 2 ^ 52 < 2 ^ 52 := Nat.mod_lt _ (by decide)
  have field : x.toBits.toNat / 2 ^ 52 % 2 ^ 11 < 2 ^ 11 := Nat.mod_lt _ (by decide)
  unfold Exact.ofFields at content
  split_ifs at content <;> cases content
  · exact ⟨by omega, by omega, by omega, .inr rfl⟩
  · exact ⟨by omega, by omega, by omega, .inl (by omega)⟩

/-- Whether a sign is the one of negative numbers. -/
def isNegative : Sign → Bool
  | .negative => true
  | .positive => false

theorem isNegative_injective : Function.Injective isNegative := by
  rintro (_ | _) (_ | _) same <;> first | rfl | cases same

/-- The exact content of an unpacked number. -/
def Exact.ofUnpacked : UnpackedFloat → Exact
  | .notANumber => .nan
  | .infinity sign => .infinite (isNegative sign)
  | .zero sign => .finite (isNegative sign) 0 (-1074)
  | .finite sign m q _ => .finite (isNegative sign) m q

theorem ofUnpacked_injective : Function.Injective Exact.ofUnpacked := by
  rintro (s | _ | s | ⟨s, m, q, pos⟩) (t | _ | t | ⟨t, n, r, pos'⟩) same <;>
    simp only [Exact.ofUnpacked, Exact.infinite.injEq, Exact.finite.injEq, isNegative_injective.eq_iff,
      reduceCtorEq] at same
  · rw [same]
  · rfl
  · rw [same.1]
  · exact absurd same.2.1 (Nat.ne_of_lt pos')
  · exact absurd same.2.1.symm (Nat.ne_of_lt pos)
  · obtain ⟨rfl, rfl, rfl⟩ := same
    rfl

section Fields

variable (b : BitVec Format.binary64.numBits)

theorem toNat_unpackMantissa : (unpackMantissa b).toNat = b.toNat % 2 ^ 52 := by
  simp [unpackMantissa]

theorem toNat_unpackExponent : (unpackExponent b).toNat = b.toNat / 2 ^ 52 % 2 ^ 11 := by
  simp [unpackExponent, Nat.shiftRight_eq_div_pow]

theorem isNegative_unpackSign : isNegative (Sign.ofBitVec (unpackSign b)) = (b.toNat / 2 ^ 63 == 1) := by
  have small : b.toNat < 2 ^ 64 := b.isLt
  have bit : (unpackSign b).toNat = b.toNat / 2 ^ 63 := by
    simp [unpackSign, Nat.shiftRight_eq_div_pow]
    omega
  rw [← bit]
  generalize unpackSign b = sign
  revert sign
  decide

theorem unpackMantissa_eq_zero_iff : unpackMantissa b = 0#_ ↔ b.toNat % 2 ^ 52 = 0 := by
  rw [← BitVec.toNat_inj, toNat_unpackMantissa]
  rfl

theorem unpackExponent_eq_zero_iff : unpackExponent b = 0#_ ↔ b.toNat / 2 ^ 52 % 2 ^ 11 = 0 := by
  rw [← BitVec.toNat_inj, toNat_unpackExponent]
  rfl

theorem unpackExponent_eq_last_iff : unpackExponent b = -1#_ ↔ b.toNat / 2 ^ 52 % 2 ^ 11 = 2047 := by
  rw [← BitVec.toNat_inj, toNat_unpackExponent]
  rfl

/-- The fields of the bits are those of the library's own model of numbers. -/
theorem ofBits_eq_ofUnpacked : Exact.ofBits b.toNat = .ofUnpacked (unpack .binary64 b) := by
  have implicit : (1#1 ++ unpackMantissa b).toNat = 2 ^ 52 + b.toNat % 2 ^ 52 := by
    rw [BitVec.toNat_append, ← Nat.shiftLeft_add_eq_or_of_lt (unpackMantissa b).isLt, toNat_unpackMantissa]
    rfl
  rw [ofBits_eq_ofFields, Exact.ofFields, ← isNegative_unpackSign]
  unfold unpack
  dsimp only
  by_cases last : unpackExponent b = -1#_
  · rw [if_pos last, if_pos ((unpackExponent_eq_last_iff b).1 last)]
    by_cases zero : unpackMantissa b = 0#_
    · rw [if_pos zero, if_pos ((unpackMantissa_eq_zero_iff b).1 zero)]
      rfl
    · rw [if_neg zero, if_neg fun zero' => zero ((unpackMantissa_eq_zero_iff b).2 zero')]
      rfl
  · rw [if_neg last, if_neg fun last' => last ((unpackExponent_eq_last_iff b).2 last')]
    by_cases least : unpackExponent b = 0#_
    · rw [if_pos least, if_pos ((unpackExponent_eq_zero_iff b).1 least)]
      by_cases zero : unpackMantissa b = 0#_
      · rw [dif_pos zero, (unpackMantissa_eq_zero_iff b).1 zero]
        rfl
      · rw [dif_neg zero, Exact.ofUnpacked, toNat_unpackMantissa, toNat_unpackExponent,
          (unpackExponent_eq_zero_iff b).1 least]
        rfl
    · rw [if_neg least, if_neg fun least' => least ((unpackExponent_eq_zero_iff b).2 least'), Exact.ofUnpacked,
      implicit, toNat_unpackExponent]
      rfl

end Fields

/-- The core library says what operations do by unpacked numbers. Here these are tied to the contents that the rest of
the project reasons about. -/
theorem exact_eq_ofUnpacked (x : Float) : exact x = .ofUnpacked x.toModel.unpack := ofBits_eq_ofUnpacked ..

/-- Two numbers of one content are one number. There is one NaN, as all of its bit patterns are the same number. -/
theorem exact_injective : Function.Injective exact := by
  intro x y same
  rw [exact_eq_ofUnpacked, exact_eq_ofUnpacked] at same
  have bits := (unpack_inj_of_valid x.toModel.valid y.toModel.valid).1 (ofUnpacked_injective same)
  exact Float.toBits_inj.1 (UInt64.toBitVec_inj.1 bits)

/-- An unpacked number that fits. -/
def Fits : UnpackedFloat → Prop
  | .finite _ m q _ => IsCanonical m q
  | _ => True

/-- Whatever has been unpacked can be packed again. -/
theorem fits_unpack (x : Float) : Fits x.toModel.unpack := by
  have content := exact_eq_ofUnpacked x
  cases run : x.toModel.unpack with
  | finite sign m q pos =>
    rw [run] at content
    exact isCanonical_of_exact content
  | _ => trivial

theorem ofBits_packComponents (sign : Sign) (exponent : BitVec 11) (mantissa : BitVec 52) :
    Exact.ofBits (packComponents .binary64 sign exponent mantissa).toNat =
      .ofFields (isNegative sign) exponent.toNat mantissa.toNat := by
  rw [ofBits_eq_ofFields, ← toNat_unpackMantissa, ← toNat_unpackExponent, ← isNegative_unpackSign,
    unpackMantissa_packComponents, unpackExponent_packComponents, unpackSign_packComponents, Sign.ofBitVec_toBitVec]

/-- Packing keeps the content of what fits. -/
theorem exact_pack {u : UnpackedFloat} (fits : Fits u) : exact (.ofModel (.pack u)) = .ofUnpacked u := by
  change Exact.ofBits (pack .binary64 u).toNat = _
  cases u with
  | notANumber => decide +kernel
  | infinity sign => cases sign <;> decide +kernel
  | zero sign => cases sign <;> decide +kernel
  | finite sign m q pos =>
    obtain ⟨small, least, greatest, full⟩ : IsCanonical m q := fits
    have bias : (Format.binary64.exponentBias : ℤ) = 1023 := rfl
    have bits : Format.binary64.mantissaBits = 53 := rfl
    unfold pack
    dsimp only
    rw [if_neg (by simp only [bias]; omega), bits]
    rcases Nat.lt_or_ge m (2 ^ 52) with low | high
    · have short : m.log2 < 52 := (Nat.log2_lt (Nat.ne_of_gt pos)).2 low
      rw [if_neg (by omega), ofBits_packComponents]
      simp only [BitVec.toNat_ofNat, Nat.mod_eq_of_lt low]
      grind [Exact.ofFields, Exact.ofUnpacked]
    · have long : m.log2 = 52 := (Nat.log2_eq_iff (Nat.ne_of_gt pos)).2 ⟨high, small⟩
      rw [if_pos (by omega), ofBits_packComponents]
      simp only [BitVec.toNat_ofNat]
      rw [bias]
      grind [Exact.ofFields, Exact.ofUnpacked]

/-- The content with the other sign. -/
def Exact.negate : Exact → Exact
  | .nan => .nan
  | .infinite negative => .infinite (!negative)
  | .finite negative m q => .finite (!negative) m q

theorem isNegative_neg (sign : Sign) : isNegative (-sign) = !isNegative sign := by cases sign <;> rfl

theorem ofUnpacked_neg (u : UnpackedFloat) : Exact.ofUnpacked u.neg = (Exact.ofUnpacked u).negate := by
  cases u <;> simp [UnpackedFloat.neg, Exact.ofUnpacked, Exact.negate, isNegative_neg]

theorem Fits.neg {u : UnpackedFloat} (fits : Fits u) : Fits u.neg := by
  cases u <;> exact fits

theorem exact_neg (x : Float) : exact (-x) = (exact x).negate := by
  rw [exact_eq_ofUnpacked x, ← ofUnpacked_neg]
  exact exact_pack (fits_unpack x).neg

/-- The sign of a positive number is set by negation, which changes nothing but the sign. -/
theorem exact_withSign {x : Float} {m : ℕ} {q : ℤ} (content : exact x = .finite false m q) (negative : Bool) :
    exact (withSign negative x) = .finite negative m q := by
  cases negative
  · exact content
  · exact (exact_neg x).trans (by rw [content]; rfl)

theorem exact_zero : exact 0.0 = .finite false 0 (-1074) := by decide +kernel

theorem unpack_zero : (0.0 : Float).toModel.unpack = .zero .positive := rfl

theorem beq_self_of_finite {x : Float} {negative : Bool} {m : ℕ} {q : ℤ} (content : exact x = .finite negative m q) :
    (x == x) = true := by
  refine Float.beq_self_iff.2 fun nan => ?_
  have empty : exact Float.nan = .nan := by decide +kernel
  rw [nan, empty] at content
  cases content

/-- Both zeros are equal to zero, and nothing else is. -/
theorem beq_zero_iff (x : Float) : (x == 0.0) = true ↔ ∃ negative q, exact x = .finite negative 0 q := by
  change x.toModel.unpack.beq (0.0 : Float).toModel.unpack = true ↔ _
  rw [exact_eq_ofUnpacked, unpack_zero, beq_iff_ne_notANumber_and_eq]
  cases x.toModel.unpack with
  | finite sign m q pos => simp [Exact.ofUnpacked, Nat.ne_of_gt pos]
  | zero sign => cases sign <;> simp [Exact.ofUnpacked]
  | _ => simp [Exact.ofUnpacked]

theorem isFinite_iff (x : Float) : x.isFinite = true ↔ ∃ negative m q, exact x = .finite negative m q := by
  change x.toModel.unpack.isFinite = true ↔ _
  rw [exact_eq_ofUnpacked]
  cases x.toModel.unpack <;> simp [UnpackedFloat.isFinite, Exact.ofUnpacked]

/-- The negative zero is not below zero, though its sign is that of negative numbers. -/
theorem sign_of_nonnegative {x : Float} {negative : Bool} {m : ℕ} {q : ℤ} (content : exact x = .finite negative m q)
    (nonnegative : 0.0 ≤ x) : negative = false ∨ m = 0 := by
  have order : (0.0 : Float).toModel.unpack.le x.toModel.unpack = true := of_decide_eq_true nonnegative
  rw [exact_eq_ofUnpacked] at content
  rw [unpack_zero] at order
  cases run : x.toModel.unpack with
  | finite sign n r pos =>
    rw [run] at content order
    cases sign
    · simp [UnpackedFloat.le, UnpackedFloat.compare] at order
    · exact .inl (Exact.finite.inj content).1.symm
  | zero sign =>
    rw [run] at content
    exact .inr (Exact.finite.inj content).2.1.symm
  | _ =>
    rw [run] at content
    cases content

end Reckoner.Number
