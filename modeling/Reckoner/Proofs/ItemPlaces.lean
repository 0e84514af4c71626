import Reckoner.Proofs.EvaluationFrame
import Reckoner.Proofs.RadixText

namespace Reckoner

namespace Number

section Digits

theorem digitChar_of_isDigit {c : Char} (digit : c.isDigit = true) : (c.toNat - '0'.toNat).digitChar = c := by
  have bounds := toNat_of_isDigit digit
  have zero : '0'.toNat = 48 := rfl
  rw [← Char.toNat_inj, Nat.toNat_digitChar_of_lt_ten (by omega)]
  omega

/-- Digits without a zero in front are written as they are read. -/
theorem decimalDigits_ofDigitChars {c : Char} {rest : List Char} (nonzero : c ≠ '0')
    (digits : ∀ d ∈ c :: rest, d.isDigit = true) : decimalDigits (Nat.ofDigitChars 10 (c :: rest) 0) = c :: rest := by
  have zero : '0'.toNat = 48 := rfl
  induction rest using List.reverseRecOn with
  | nil =>
    have digit := digits c List.mem_cons_self
    have bounds := toNat_of_isDigit digit
    rw [Nat.ofDigitChars_cons, Nat.ofDigitChars_nil, Nat.mul_zero, Nat.zero_add, decimalDigits,
      Nat.toDigits_of_lt_base (by omega), digitChar_of_isDigit digit]
  | append_singleton rest d ih =>
    rw [← List.cons_append] at digits ⊢
    obtain ⟨earlier, last⟩ := List.forall_mem_append.1 digits
    have digit := last d List.mem_cons_self
    have bounds := toNat_of_isDigit digit
    have pos : 0 < Nat.ofDigitChars 10 (c :: rest) 0 :=
      (Nat.pow_pos (by decide)).trans_le (le_ofDigitChars (earlier c List.mem_cons_self) nonzero rest)
    have behind := Nat.toDigits_append_toDigits (b := 10) (d := d.toNat - '0'.toNat) (by decide) pos (by omega)
    rw [Nat.ofDigitChars_append, Nat.ofDigitChars_cons, Nat.ofDigitChars_nil, decimalDigits, ← behind,
      Nat.toDigits_of_lt_base (n := d.toNat - '0'.toNat) (by omega), digitChar_of_isDigit digit]
    exact congrArg (· ++ [d]) (ih earlier)

/-- No number other than zero has a zero in front, since one digit less than its size asks for would be left. -/
theorem decimalDigits_head {n : ℕ} (pos : 0 < n) : ∃ c rest, decimalDigits n = c :: rest ∧ c ≠ '0' := by
  obtain ⟨c, rest, digits⟩ := List.exists_cons_of_ne_nil (decimalDigits_ne_nil n)
  refine ⟨c, rest, digits, ?_⟩
  rintro rfl
  obtain ⟨low, -⟩ := decimalDigits_bounds pos
  have figures : ∀ d ∈ rest, d.isDigit = true := fun d member =>
    isDigit_of_mem_decimalDigits (digits ▸ List.mem_cons_of_mem _ member)
  have value : Nat.ofDigitChars 10 (decimalDigits n) 0 = n := Nat.ofDigitChars_ten_toDigits
  have high := ofDigitChars_lt figures 0
  rw [digits, Nat.ofDigitChars_cons] at value
  simp only [Nat.mul_zero, Nat.sub_self, Nat.add_zero] at value
  rw [value, zero_add, one_mul] at high
  rw [digits, List.length_cons, Nat.add_sub_cancel] at low
  omega

/-- Characters other than a single zero are the decimal digits of a number if they are digits and begin with no zero. -/
theorem eq_decimalDigits_iff {c : Char} {rest : List Char} {n : ℕ} (single : ¬(c = '0' ∧ rest = [])) :
    c :: rest = decimalDigits n ↔
      c ≠ '0' ∧ (∀ d ∈ c :: rest, d.isDigit = true) ∧ ofDecimalDigits (c :: rest) = n := by
  constructor
  · intro same
    have digits : ∀ d ∈ c :: rest, d.isDigit = true := fun d member =>
      isDigit_of_mem_decimalDigits (same ▸ member)
    refine ⟨?_, digits, by rw [same, ofDecimalDigits_decimalDigits]⟩
    rcases n.eq_zero_or_pos with rfl | pos
    · exact fun zero => single ⟨zero, (List.cons.inj same).2⟩
    · obtain ⟨d, others, canonical, nonzero⟩ := decimalDigits_head pos
      rw [(List.cons.inj (same.trans canonical)).1]
      exact nonzero
  · rintro ⟨nonzero, digits, rfl⟩
    rw [ofDecimalDigits_eq digits, decimalDigits_ofDigitChars nonzero digits]

end Digits

section Whole

variable {x : Float} {i : ℕ}

theorem HasValue.unique {a b : ℚ} (one : HasValue x a) (other : HasValue x b) : a = b := by
  have same := one.place?.symm.trans other.place?
  exact WithTop.coe_injective (WithBot.coe_injective (Option.some.inj same))

/-- From `2 ^ 53` on the number nearest to an integer is whole and not below that either: with no positive exponent its
significand alone could not come up to that. -/
theorem exists_whole_of_nearest (nearest : IsNearest i x) (large : 2 ^ 53 ≤ i) (small : i < 2 ^ 64) :
    ∃ k : ℕ, HasValue x k ∧ 2 ^ 53 ≤ k := by
  have bounded : (i : ℚ) * 10 ^ (0 : ℤ) < overflow := by
    have canonical : IsCanonical (2 ^ 52) 12 := ⟨by decide, by decide, by decide, .inl le_rfl⟩
    have below : (i : ℚ) < (2 ^ 52 : ℕ) * 2 ^ (12 : ℤ) := by exact_mod_cast small
    rw [zpow_zero, mul_one]
    exact below.trans canonical.lt_overflow
  obtain ⟨m, q, canonical, near⟩ := (ofScientific_rounded i 0).exists_near bounded
  rw [zpow_zero, mul_one] at near
  have content := nearest.exact_eq canonical near
  have short : (m : ℚ) + 1 ≤ 2 ^ 53 := by exact_mod_cast canonical.small
  have above : (2 : ℚ) ^ 53 ≤ i := by exact_mod_cast large
  have pos : 0 < q := by
    refine not_le.1 fun fractional => ?_
    have unit : (2 : ℚ) ^ q ≤ 1 := zpow_le_one_of_nonpos₀ (by norm_num) fractional
    have high := near.bounds.2
    rw [div_le_iff₀ (by positivity)] at high
    have least : (m + 1 / 2) * (2 : ℚ) ^ q ≤ m + 1 / 2 := mul_le_of_le_one_right (by positivity) unit
    linarith
  have full : 2 ^ 52 ≤ m := canonical.full.resolve_right (by omega)
  refine ⟨m * 2 ^ q.toNat, ⟨false, m, q, content, ?_⟩, ?_⟩
  · rw [signedValue_false, Nat.cast_mul, Nat.cast_pow, Nat.cast_ofNat, ← zpow_natCast, Int.toNat_of_nonneg pos.le]
  · calc 2 ^ 53 = 2 ^ 52 * 2 ^ 1 := rfl
      _ ≤ m * 2 ^ q.toNat := Nat.mul_le_mul full (Nat.pow_le_pow_right (by decide) (by omega))

theorem isNearest_ofText (i : ℕ) : IsNearest i (ofText (toString i)) := by
  have small : (0 : ℤ).natAbs < 2 ^ 16 := by decide
  have plain : (Literal.mk (decimalDigits i) [] 0).IsPlain :=
    ⟨decimalDigits_ne_nil i, fun c member => isDigit_of_mem_decimalDigits (by simpa using member), small⟩
  have spelled : (Literal.mk (decimalDigits i) [] 0).text = decimalDigits i := by simp [Literal.text, exponentText]
  have read := ofText_signed plain false
  rw [spelled] at read
  have nearest := isNearest_nearest plain.digits 0
  have value : ofDecimalDigits (decimalDigits i ++ []) = i := by rw [List.append_nil, ofDecimalDigits_decimalDigits]
  rw [value, zpow_zero, mul_one] at nearest
  rw [Nat.toString_eq_ofList_toDigits]
  exact read ▸ nearest

/-- A number that is written as an integer is that integer, or both are large. -/
theorem value_of_text (written : text x = toString i) (small : i < 2 ^ 64) :
    ∃ k : ℕ, HasValue x k ∧ (k = i ∨ 2 ^ 53 ≤ k ∧ 2 ^ 53 ≤ i) := by
  by_cases zero : (x == 0.0) = true
  · obtain ⟨negative, q, content⟩ := (beq_zero_iff x).1 zero
    have zero : (0 : ℕ) = i := by
      rw [text_of_zero zero] at written
      exact Nat.repr_injective written
    exact ⟨0, ⟨negative, 0, q, content, by rw [signedValue_zero, Nat.cast_zero]⟩, .inl zero⟩
  · have nearest := isNearest_ofText i
    rw [← written, ofText_text zero] at nearest
    rcases Nat.lt_or_ge i (2 ^ 53) with below | above
    · rw [nearest.unique (isNearest_ofNat i)]
      exact ⟨i, by exact_mod_cast hasValue_ofNat below, .inl rfl⟩
    · obtain ⟨k, value, large⟩ := exists_whole_of_nearest nearest above small
      exact ⟨k, value, .inr ⟨large, above⟩⟩

end Whole

end Number

namespace Value

open Number

/-- The keys of places are the decimal texts of the natural numbers of 64 bits. -/
theorem indexOfKey?_eq_some_iff {key : String} {k : ℕ} : indexOfKey? key = some k ↔ key = toString k ∧ k < 2 ^ 64 := by
  have spelled : key = toString k ↔ key.toList = decimalDigits k := by
    rw [Nat.toString_eq_ofList_toDigits, ← String.toList_inj, String.toList_ofList]
    rfl
  rw [spelled]
  unfold indexOfKey?
  split
  · rename_i empty
    rw [empty]
    exact ⟨nofun, fun ⟨same, _⟩ => absurd same.symm (decimalDigits_ne_nil k)⟩
  · rename_i zero
    rw [zero]
    constructor
    · rintro ⟨⟩
      exact ⟨rfl, by decide⟩
    · rintro ⟨same, -⟩
      have value := congrArg ofDecimalDigits same
      rw [ofDecimalDigits_decimalDigits] at value
      exact congrArg some value
  · rename_i c rest single text
    have plain : (decide (c ≠ '0') && (c :: rest).all Char.isDigit) = true ↔
        c ≠ '0' ∧ ∀ d ∈ c :: rest, d.isDigit = true := by
      rw [Bool.and_eq_true, decide_eq_true_eq, List.all_eq_true]
    rw [text, eq_decimalDigits_iff fun zero => single zero.1 zero.2]
    split
    · rename_i holds
      rw [Option.filter_eq_some_iff, decide_eq_true_eq, Option.some_inj]
      exact and_congr_left' ⟨fun value => ⟨(plain.1 holds).1, (plain.1 holds).2, value⟩, fun all => all.2.2⟩
    · rename_i fails
      exact ⟨nofun, fun all => absurd (plain.2 ⟨all.1.1, all.1.2.1⟩) fails⟩

section Places

variable {x : Float} {k : ℕ}

/-- Below `2 ^ 53` the text of a whole number is the key of its place. -/
theorem indexOfKey?_text (value : HasValue x k) (small : k < 2 ^ 53) : indexOfKey? (Number.text x) = some k := by
  have whole : HasValue x (k : ℤ) := by exact_mod_cast value
  have written := text_of_whole whole (by simpa using small)
  have negative : decide ((k : ℤ) < 0) = false := by simp
  rw [negative, Int.natAbs_natCast] at written
  rw [indexOfKey?_eq_some_iff, written, Nat.toString_eq_ofList_toDigits]
  exact ⟨rfl, by omega⟩

theorem value_of_indexOfKey? (found : indexOfKey? (Number.text x) = some k) :
    ∃ i : ℕ, HasValue x i ∧ (i = k ∨ 2 ^ 53 ≤ i ∧ 2 ^ 53 ≤ k) := by
  obtain ⟨written, small⟩ := indexOfKey?_eq_some_iff.1 found
  exact value_of_text written small

theorem indexOfKey?_text_eq_none (other : ∀ k : ℕ, ¬HasValue x k) : indexOfKey? (Number.text x) = none := by
  cases found : indexOfKey? (Number.text x) with
  | none => rfl
  | some i =>
    obtain ⟨k, value, -⟩ := value_of_indexOfKey? found
    exact absurd value (other k)

/-- A number reads the item whose place it is. -/
theorem getElem?_of_value {items : List Value} (value : HasValue x k) (exact : k < 2 ^ 53 ∨ items.length ≤ 2 ^ 53) :
    (indexOfKey? (Number.text x) >>= (items[·]?)) = items[k]? := by
  rcases Nat.lt_or_ge k (2 ^ 53) with small | large
  · rw [indexOfKey?_text value small]
    rfl
  · have short : items.length ≤ 2 ^ 53 := exact.resolve_left (Nat.not_lt.2 large)
    rw [List.getElem?_eq_none (short.trans large)]
    cases found : indexOfKey? (Number.text x) with
    | none => rfl
    | some i =>
      obtain ⟨k', value', same⟩ := value_of_indexOfKey? found
      have places : k' = k := by exact_mod_cast value'.unique value
      exact List.getElem?_eq_none (by omega)

end Places

/-- What stands at the places of an array, or of a text as a sequence of characters. -/
def items? : Value → Option (List Value)
  | .array items => some items
  | .string s => some (s.toList.map fun c => .string (String.singleton c))
  | _ => none

/-- No number is written as the name of the length. -/
theorem text_ne_length (x : Float) : Number.text x ≠ "length" := by
  intro written
  by_cases zero : (x == 0.0) = true
  · rw [text_of_zero zero] at written
    exact absurd written (by decide)
  · have read := ofText_text zero
    rw [written] at read
    rw [← read] at written
    exact absurd written (by decide +kernel)

section Sequences

variable {receiver : Value} {items : List Value} (sequence : receiver.items? = some items)

include sequence

theorem property_of_items {key : String} (other : key ≠ "length") :
    receiver.property key = (indexOfKey? key >>= (items[·]?)).getD .undefined := by
  cases receiver with
  | array items =>
    cases sequence
    rw [property, if_neg other]
  | string s =>
    cases sequence
    rw [property, if_neg other]
    have mapped : (indexOfKey? key >>= ((s.toList.map fun c => string (String.singleton c))[·]?)) =
        (indexOfKey? key >>= (s.toList[·]?)).map fun c => string (String.singleton c) := by
      cases indexOfKey? key with
      | none => rfl
      | some i => exact List.getElem?_map
    rw [mapped]
    cases indexOfKey? key >>= (s.toList[·]?) <;> rfl
  | _ => cases sequence

theorem property_number (x : Float) :
    (∀ k : ℕ, HasValue x k → k < 2 ^ 53 ∨ items.length ≤ 2 ^ 53 →
      receiver.property (Number.text x) = items[k]?.getD .undefined) ∧
    ((∀ k : ℕ, ¬HasValue x k) → receiver.property (Number.text x) = .undefined) := by
  rw [property_of_items sequence (text_ne_length x)]
  refine ⟨fun k value exact => ?_, fun other => ?_⟩
  · rw [getElem?_of_value value exact]
  · rw [indexOfKey?_text_eq_none other]
    rfl

theorem property_string {s : String} (other : s ≠ "length") :
    (∀ k < 2 ^ 64, s = toString k → receiver.property s = items[k]?.getD .undefined) ∧
    ((∀ k < items.length, s ≠ toString k) → receiver.property s = .undefined) := by
  rw [property_of_items sequence other]
  refine ⟨fun k small written => ?_, fun unwritten => ?_⟩
  · rw [indexOfKey?_eq_some_iff.2 ⟨written, small⟩]
    rfl
  · cases found : indexOfKey? s with
    | none => rfl
    | some k =>
      have outside : items.length ≤ k := not_lt.1 fun inside =>
        unwritten k inside (indexOfKey?_eq_some_iff.1 found).1
      change items[k]?.getD _ = _
      rw [List.getElem?_eq_none outside]
      rfl

end Sequences

end Value

namespace Expr

open Number Value

variable {base key : Expr} {env mid after : Environment} {name receiver : Value} {items : List Value}

/-- The property of a sequence is read in the environment that its two parts have left. -/
theorem eval_index_items (keyed : key.eval env = (.ok name, mid)) (based : base.eval mid = (.ok receiver, after))
    (sequence : receiver.items? = some items) :
    (Expr.index base key).eval env = (.ok (receiver.property name.text), after) := by
  have named : base ≠ .this := by
    rintro rfl
    rw [eval] at based
    cases based
    cases sequence
  have present : receiver.isNullish = false := by
    cases receiver <;> first | rfl | cases sequence
  have read : receiver.readProperty name.text = .ok (receiver.property name.text) := by
    rw [readProperty, present, if_neg Bool.false_ne_true]
  rw [eval, Eval.bind_ok keyed, Eval.bind_ok based, read]
  · rfl
  · exact named

/-- An array or a text that is indexed with a number has the item at that place, and nothing at any other number. A text
as the key has an item only if it is the decimal text of a place. Places from `2 ^ 53` on, whose numbers are not
written with all their digits, are left out of sequences that are long enough to have them. -/
theorem eval_index_place (keyed : key.eval env = (.ok name, mid)) (based : base.eval mid = (.ok receiver, after))
    (sequence : receiver.items? = some items) :
    ∃ v, (Expr.index base key).eval env = (.ok v, after) ∧
      (∀ x, name = .number x →
        (∀ k : ℕ, HasValue x k → k < 2 ^ 53 ∨ items.length ≤ 2 ^ 53 → v = items[k]?.getD .undefined) ∧
        ((∀ k : ℕ, ¬HasValue x k) → v = .undefined)) ∧
      ∀ s, name = .string s → s ≠ "length" →
        (∀ k < 2 ^ 64, s = toString k → v = items[k]?.getD .undefined) ∧
        ((∀ k < items.length, s ≠ toString k) → v = .undefined) := by
  refine ⟨_, eval_index_items keyed based sequence, ?_, ?_⟩
  · rintro x rfl
    rw [Value.text]
    exact property_number sequence x
  · rintro s rfl other
    rw [Value.text]
    exact property_string sequence other

/-- The number of its place reads the last character of a text. -/
theorem eval_index_place_last :
    ∃ env base key, env = (Template.ofNames []).instantiate [] [] true ∧ base = .literal (.string "añ") ∧
      key = .literal (.number 1.0) ∧ key.eval env = (.ok (.number 1.0), env) ∧
      base.eval env = (.ok (.string "añ"), env) ∧
      (Value.string "añ").items? = some [.string "a", .string "ñ"] ∧ HasValue 1.0 (1 : ℕ) ∧
      (Expr.index base key).eval env = (.ok (.string "ñ"), env) := by
  let env := (Template.ofNames []).instantiate [] [] true
  have one : HasValue 1.0 (1 : ℕ) := by exact_mod_cast hasValue_literal 1 (by decide)
  have keyed : (Expr.literal (.number 1.0)).eval env = (.ok (.number 1.0), env) := rfl
  have based : (Expr.literal (.string "añ")).eval env = (.ok (.string "añ"), env) := rfl
  have sequence : (Value.string "añ").items? = some [.string "a", .string "ñ"] := rfl
  refine ⟨env, _, _, rfl, rfl, rfl, keyed, based, sequence, one, ?_⟩
  obtain ⟨v, read, number, -⟩ := eval_index_place keyed based sequence
  have last : v = .string "ñ" := (number 1.0 rfl).1 1 one (.inl (by decide))
  rw [read, last]

end Expr

end Reckoner
