import Mathlib.Data.List.Basic
import Mathlib.Data.List.Induction
import Mathlib.Data.Nat.Digits.Defs
import Reckoner.Number.Reading
import Reckoner.Number.Text
import Reckoner.Text.Ranges

namespace Reckoner.Number

/-- Reading by halves takes up to `2 ^ level` digits, the highest one first. -/
theorem ofDigitsTo_eq (radix level : Nat) (values : List Nat) : ofDigitsTo radix level values =
    (Nat.ofDigits radix (values.take (2 ^ level)).reverse, radix ^ (values.take (2 ^ level)).length,
      values.drop (2 ^ level)) := by
  induction level generalizing values with
  | zero =>
    cases values with
    | nil => rfl
    | cons value rest =>
      change (value, radix, rest) = (Nat.ofDigits radix [value], radix ^ 1, rest)
      rw [Nat.ofDigits_singleton, Nat.pow_one]
  | succ level ih =>
    cases values with
    | nil => simp [ofDigitsTo]
    | cons value rest =>
      have twice : 2 ^ (level + 1) = 2 ^ level + 2 ^ level := by rw [Nat.pow_succ]; omega
      rw [ofDigitsTo, ih, twice, List.take_add, ← List.drop_drop]
      · dsimp only
        rw [ih, List.reverse_append, Nat.ofDigits_append, List.length_reverse, List.length_append, Nat.pow_add,
          Nat.mul_comm, Nat.add_comm]
      · exact nofun

theorem ofDigits_eq (radix : Nat) (values : List Nat) : ofDigits radix values = Nat.ofDigits radix values.reverse := by
  rw [ofDigits, ofDigitsTo_eq, List.take_of_length_le (Nat.le_of_lt Nat.lt_log2_self)]

theorem toNat_of_isDigit {c : Char} (digit : c.isDigit = true) : 48 ≤ c.toNat ∧ c.toNat ≤ 57 := by
  simp only [Char.isDigit, Bool.and_eq_true, decide_eq_true_eq, ge_iff_le, UInt32.le_iff_toNat_le] at digit
  exact digit

theorem isAscii_of_isDigit {c : Char} (digit : c.isDigit = true) : Text.isAscii c = true := by
  have bounds := toNat_of_isDigit digit
  rw [Text.isAscii, decide_eq_true_eq]
  omega

theorem digitValue?_of_isDigit {c : Char} (digit : c.isDigit = true) :
    digitValue? 10 c = some (c.toNat - '0'.toNat) := by
  have bounds := toNat_of_isDigit digit
  rw [digitValue?, if_pos digit]
  exact if_pos (by rw [show '0'.toNat = 48 from rfl]; omega)

/-- Decimal digits count as in the library's own reading of them. -/
theorem ofDecimalDigits_eq {text : List Char} (digits : ∀ c ∈ text, c.isDigit = true) :
    ofDecimalDigits text = Nat.ofDigitChars 10 text 0 := by
  rw [ofDecimalDigits, ofDigits_eq, Nat.ofDigits_eq_foldr, List.foldr_reverse, List.foldl_map,
    Nat.ofDigitChars_eq_foldl]
  refine List.foldl_ext _ _ _ fun total c member => ?_
  rw [digitValue?_of_isDigit (digits c member)]
  exact Nat.add_comm ..

theorem ofDigitChars_lt {text : List Char} (digits : ∀ c ∈ text, c.isDigit = true) (total : Nat) :
    Nat.ofDigitChars 10 text total < (total + 1) * 10 ^ text.length := by
  induction text generalizing total with
  | nil => simp
  | cons c text ih =>
    have digit := toNat_of_isDigit (digits c List.mem_cons_self)
    have zero : '0'.toNat = 48 := rfl
    rw [Nat.ofDigitChars_cons, List.length_cons, Nat.pow_succ', ← Nat.mul_assoc]
    refine (ih (fun d member => digits d (List.mem_cons_of_mem c member)) _).trans_le (Nat.mul_le_mul_right _ ?_)
    omega

theorem le_ofDigitChars {c : Char} (digit : c.isDigit = true) (nonzero : c ≠ '0') (text : List Char) :
    10 ^ text.length ≤ Nat.ofDigitChars 10 (c :: text) 0 := by
  have bounds := toNat_of_isDigit digit
  have zero : '0'.toNat = 48 := rfl
  have other : c.toNat ≠ 48 := fun same => nonzero (Char.toNat_inj.1 same)
  rw [Nat.ofDigitChars_cons, Nat.ofDigitChars_eq_ofDigitChars_zero]
  refine Nat.le_add_right_of_le (Nat.le_mul_of_pos_right _ ?_)
  omega

theorem ofDigitChars_dropWhile (text : List Char) :
    Nat.ofDigitChars 10 (text.dropWhile (· = '0')) 0 = Nat.ofDigitChars 10 text 0 := by
  induction text with
  | nil => rfl
  | cons c text ih =>
    by_cases zero : c = '0'
    · subst zero
      simpa [Nat.ofDigitChars_cons] using ih
    · simp [zero]

/-- The digits of an exponent are read to the end, or as far as to a number that is large as well. -/
theorem ofExponentDigits_reads {text : List Char} (digits : ∀ c ∈ text, c.isDigit = true) :
    ofExponentDigits text = Nat.ofDigitChars 10 text 0 ∨
      10 * 2 ^ 16 ≤ Nat.ofDigitChars 10 text 0 ∧ 2 ^ 16 ≤ ofExponentDigits text := by
  induction text using List.reverseRecOn with
  | nil => exact .inl rfl
  | append_singleton text c ih =>
    obtain ⟨earlier, last⟩ := List.forall_mem_append.1 digits
    have digit := digitValue?_of_isDigit (last c List.mem_cons_self)
    have read : ofExponentDigits (text ++ [c]) =
        if ofExponentDigits text < 2 ^ 16 then ofExponentDigits text * 10 + (digitValue? 10 c).getD 0
        else ofExponentDigits text := List.foldl_append
    have value : Nat.ofDigitChars 10 (text ++ [c]) 0 = 10 * Nat.ofDigitChars 10 text 0 + (c.toNat - '0'.toNat) := by
      rw [Nat.ofDigitChars_append, Nat.ofDigitChars_cons, Nat.ofDigitChars_nil]
    rw [read, value, digit, Option.getD_some]
    rcases ih earlier with whole | ⟨long, large⟩
    · rw [whole]
      split <;> omega
    · rw [if_neg (Nat.not_lt.2 large)]
      omega

/-- A number below `2 ^ 16` is read whole as an exponent. -/
theorem ofExponentDigits_eq {text : List Char} (digits : ∀ c ∈ text, c.isDigit = true)
    (small : Nat.ofDigitChars 10 text 0 < 2 ^ 16) : ofExponentDigits text = Nat.ofDigitChars 10 text 0 :=
  (ofExponentDigits_reads digits).resolve_right fun long => by omega

theorem isDigit_of_mem_decimalDigits {n : Nat} {c : Char} (member : c ∈ decimalDigits n) : c.isDigit = true :=
  Nat.isDigit_of_mem_toDigits (by decide) (by decide) member

theorem decimalDigits_ne_nil (n : Nat) : decimalDigits n ≠ [] := Nat.toDigits_ne_nil

@[simp]
theorem ofDecimalDigits_decimalDigits (n : Nat) : ofDecimalDigits (decimalDigits n) = n := by
  rw [ofDecimalDigits_eq fun _ => isDigit_of_mem_decimalDigits]
  exact Nat.ofDigitChars_ten_toDigits

end Reckoner.Number
