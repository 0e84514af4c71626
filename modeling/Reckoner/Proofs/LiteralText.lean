import Mathlib.Algebra.Order.Group.Int
import Mathlib.Data.List.TakeWhile
import Mathlib.Tactic.SplitIfs
import Reckoner.Number.OfText
import Reckoner.Proofs.DecimalDigits
import Reckoner.Proofs.NumberReaders
import Reckoner.Token.Scanning

namespace Reckoner.Number

open Text Text.Reader

/-- What stands behind the digits of a literal for an exponent other than zero. -/
def exponentText (exponent : Int) : List Char :=
  if exponent = 0 then []
  else 'e' :: (if 0 ≤ exponent then '+' else '-') :: decimalDigits exponent.natAbs

/-- A literal with a point or an exponent only where they count. -/
def Literal.text (l : Literal) : List Char :=
  l.whole ++ ((if l.fraction = [] then [] else '.' :: l.fraction) ++ exponentText l.exponent)

/-- Digits before the point, and an exponent of which all digits are read. -/
structure Literal.IsPlain (l : Literal) : Prop where
  whole : l.whole ≠ []
  digits : ∀ c ∈ l.whole ++ l.fraction, c.isDigit = true
  small : l.exponent.natAbs < 2 ^ 16

theorem readExponent?_exponentText {exponent : Int} (small : exponent.natAbs < 2 ^ 16) :
    readExponent? (exponentText exponent) = if exponent = 0 then none else some (exponent, []) := by
  have figures : ∀ c ∈ decimalDigits exponent.natAbs, c.isDigit = true := fun _ => isDigit_of_mem_decimalDigits
  have run := List.takeWhile_eq_self_iff.2 figures
  have rest := List.dropWhile_eq_nil_iff.2 figures
  have size : ofExponentDigits (decimalDigits exponent.natAbs) = exponent.natAbs := by
    have value := Nat.ofDigitChars_ten_toDigits (n := exponent.natAbs)
    exact (ofExponentDigits_eq figures (value.symm ▸ small)).trans value
  have nonempty : (decimalDigits exponent.natAbs).isEmpty = false :=
    List.isEmpty_eq_false_iff.2 (decimalDigits_ne_nil _)
  unfold exponentText
  split
  · rfl
  · by_cases sign : 0 ≤ exponent
    · rw [if_pos sign]
      simp [readExponent?, run, rest, size, nonempty, abs_of_nonneg sign]
    · rw [if_neg sign]
      simp [readExponent?, run, rest, size, nonempty, abs_of_neg (not_le.1 sign)]

theorem head_exponentText {exponent : Int} : ∀ c ∈ (exponentText exponent).head?, c = 'e' := by
  unfold exponentText
  split <;> simp

theorem literalWith?_exponentText (whole fraction : List Char) {exponent : Int} (small : exponent.natAbs < 2 ^ 16) :
    literalWith? whole fraction (exponentText exponent) = some (⟨whole, fraction, exponent⟩, []) := by
  rw [literalWith?, readExponent?_exponentText small]
  split_ifs with zero
  · simp [zero, exponentText]
  · rfl

/-- A literal is read from its text. -/
theorem readLiteral?_text {l : Literal} (plain : l.IsPlain) : readLiteral? l.text = some (l, []) := by
  obtain ⟨whole, fraction, exponent⟩ := l
  obtain ⟨nonempty, digits, small⟩ := plain
  dsimp only at nonempty digits small
  have wholeEmpty : whole.isEmpty = false := List.isEmpty_eq_false_iff.2 nonempty
  have wholeDigits : ∀ c ∈ whole, c.isDigit = true := fun c member => digits c (List.mem_append_left _ member)
  have fractionDigits : ∀ c ∈ fraction, c.isDigit = true := fun c member => digits c (List.mem_append_right _ member)
  have behind : ∀ c ∈ (exponentText exponent).head?, c.isDigit = false :=
    fun c member => head_exponentText c member ▸ rfl
  rw [readLiteral?_eq_literalWith?, Literal.text]
  dsimp only
  by_cases integral : fraction = []
  · obtain ⟨run, rest⟩ := takeWhile_dropWhile_append wholeDigits behind
    have parts : Number.fraction whole (exponentText exponent) = (fraction, exponentText exponent) := by
      rw [integral]
      unfold exponentText
      split_ifs <;> rfl
    rw [if_pos integral, List.nil_append, run, rest, parts, wholeEmpty]
    exact literalWith?_exponentText _ _ small
  · have point : ∀ c ∈ ('.' :: (fraction ++ exponentText exponent)).head?, c.isDigit = false := by simp
    obtain ⟨run, rest⟩ := takeWhile_dropWhile_append wholeDigits point
    obtain ⟨run', rest'⟩ := takeWhile_dropWhile_append fractionDigits behind
    have parts : Number.fraction whole ('.' :: (fraction ++ exponentText exponent)) =
        (fraction, exponentText exponent) := by
      rw [Number.fraction, wholeEmpty, Bool.false_and, if_neg Bool.false_ne_true, run', rest']
    rw [if_neg integral, List.cons_append, run, rest, parts, wholeEmpty]
    exact literalWith?_exponentText _ _ small

theorem head_text {l : Literal} (plain : l.IsPlain) : ∃ c rest, l.text = c :: rest ∧ c.isDigit = true := by
  obtain ⟨c, more, whole⟩ := List.exists_cons_of_ne_nil plain.whole
  exact ⟨c, _, by rw [Literal.text, whole]; rfl, plain.digits c (by simp [whole])⟩

theorem isBlank_of_isDigit {c : Char} (digit : c.isDigit = true) : isBlank c = false := by
  have bounds := toNat_of_isDigit digit
  have other : c ≠ ' ' := by
    rintro rfl
    cases digit
  rw [isBlank, if_pos (isAscii_of_isDigit digit), Bool.or_eq_false_iff, Bool.and_eq_false_iff,
    decide_eq_false_iff_not, decide_eq_false_iff_not]
  exact ⟨beq_eq_false_iff_ne.2 other, .inr (by omega)⟩

/-- The characters of numbers. -/
def IsNumeric (c : Char) : Prop := c.isDigit = true ∨ c ∈ ['.', 'e', '+', '-']

theorem IsNumeric.isBlank {c : Char} (numeric : IsNumeric c) : isBlank c = false := by
  rcases numeric with digit | mark
  · exact isBlank_of_isDigit digit
  · simp only [List.mem_cons, List.not_mem_nil, or_false] at mark
    rcases mark with rfl | rfl | rfl | rfl <;> rfl

theorem isNumeric_of_mem_text {l : Literal} (plain : l.IsPlain) {c : Char} (member : c ∈ l.text) : IsNumeric c := by
  have digits (c : Char) (member : c ∈ l.whole ∨ c ∈ l.fraction) : IsNumeric c :=
    .inl (plain.digits c (List.mem_append.2 member))
  rw [Literal.text, List.mem_append, List.mem_append] at member
  rcases member with whole | fraction | exponent
  · exact digits c (.inl whole)
  · split at fraction
    · cases fraction
    · rcases List.mem_cons.1 fraction with rfl | fraction
      · exact .inr (by decide)
      · exact digits c (.inr fraction)
  · unfold exponentText at exponent
    split at exponent
    · cases exponent
    · rcases List.mem_cons.1 exponent with rfl | exponent
      · exact .inr (by decide)
      · rcases List.mem_cons.1 exponent with rfl | figure
        · split <;> exact .inr (by decide)
        · exact .inl (isDigit_of_mem_decimalDigits figure)

theorem isNumeric_of_mem_signed {l : Literal} (plain : l.IsPlain) (negative : Bool) {c : Char}
    (member : c ∈ signed negative l.text) : IsNumeric c := by
  unfold signed at member
  split at member
  · rcases List.mem_cons.1 member with rfl | member
    · exact .inr (by decide)
    · exact isNumeric_of_mem_text plain member
  · exact isNumeric_of_mem_text plain member

theorem trim_eq_self {text : List Char} (solid : ∀ c ∈ text, isBlank c = false) : trim text = text := by
  have whole (text : List Char) (solid : ∀ c ∈ text, isBlank c = false) : text.dropWhile isBlank = text := by
    cases text with
    | nil => rfl
    | cons c rest => rw [List.dropWhile_cons, solid c List.mem_cons_self, if_neg Bool.false_ne_true]
  rw [trim, trimEnd, trimStart, whole text solid, whole _ (fun c member => solid c (List.mem_reverse.1 member)),
    List.reverse_reverse]

/-- What is read to its end as a decimal literal has no mark of another radix. -/
theorem radixMark?_eq_none {text : List Char} {l : Literal} (read : readLiteral? text = some (l, [])) :
    radixMark? text = none := by
  have stops (mark : Char) (rest : List Char) (letter : mark.isDigit = false ∧ mark ≠ '.' ∧ mark ≠ 'e' ∧ mark ≠ 'E')
      (read : readLiteral? ('0' :: mark :: rest) = some (l, [])) : False := by
    rw [readLiteral?_eq_literalWith?] at read
    simp [letter.1, fraction, letter.2.1, literalWith?, readExponent?, letter.2.2.1, letter.2.2.2] at read
  unfold radixMark?
  split
  · exact (stops _ _ (by decide) read).elim
  · exact (stops _ _ (by decide) read).elim
  · exact (stops _ _ (by decide) read).elim
  · exact (stops _ _ (by decide) read).elim
  · exact (stops _ _ (by decide) read).elim
  · exact (stops _ _ (by decide) read).elim
  · rfl

theorem readDecimal?_signed {l : Literal} (plain : l.IsPlain) (negative : Bool) :
    readDecimal? (signed negative l.text) = some (withSign negative l.value) := by
  have read := readLiteral?_text plain
  obtain ⟨c, rest, text, digit⟩ := head_text plain
  rw [text] at read ⊢
  cases negative with
  | true => simp [signed, readDecimal?, read]
  | false =>
    have minus : c ≠ '-' := by
      rintro rfl
      cases digit
    have plus : c ≠ '+' := by
      rintro rfl
      cases digit
    simp [signed, readDecimal?, minus, plus, read]

/-- A literal with a sign is the number of its text. -/
theorem ofText_signed {l : Literal} (plain : l.IsPlain) (negative : Bool) :
    ofText (String.ofList (signed negative l.text)) = withSign negative l.value := by
  have read := readDecimal?_signed plain negative
  have numeric : ∀ d ∈ signed negative l.text, IsNumeric d := fun _ => isNumeric_of_mem_signed plain negative
  have unmarked : radixMark? (signed negative l.text) = none := by
    cases negative
    · exact radixMark?_eq_none (readLiteral?_text plain)
    · rfl
  have nonempty : signed negative l.text ≠ [] := by
    obtain ⟨c, rest, text, -⟩ := head_text plain
    cases negative <;> simp [signed, text]
  have named (name : List Char) (letter : 'I' ∈ name) : signed negative l.text ≠ name := by
    rintro rfl
    rcases numeric 'I' letter with digit | mark
    · cases digit
    · revert mark
      decide
  unfold ofText
  rw [String.toList_ofList, trim_eq_self fun c member => (numeric c member).isBlank]
  split
  · exact absurd ‹_› nonempty
  · rw [if_neg (not_or.2 ⟨named _ (by decide), named _ (by decide)⟩), if_neg (named _ (by decide)), unmarked]
    dsimp only
    rw [read, Option.getD_some]

theorem scanLiteral_text {l : Literal} (plain : l.IsPlain) :
    Token.scanLiteral l.text = some (.number l.value, []) := by
  obtain ⟨c, rest, text, digit⟩ := head_text plain
  have quote : ¬(c = '\x22' ∨ c = '\x27') := by
    rintro (rfl | rfl) <;> cases digit
  have noString : Token.scanString l.text = none := by
    rw [text]
    exact if_neg quote
  rw [Token.scanLiteral, or_apply, noString, Token.scanNumber, readLiteral?_text plain]
  rfl

end Reckoner.Number
