import Reckoner.Proofs.DigitSums
import Reckoner.Proofs.NumberGrammar
import Reckoner.Proofs.Positions

namespace Reckoner.Number

open Text Text.Reader

theorem isNaN_notANumber : notANumber.isNaN = true := by decide +kernel

/-- A text taken apart at its front for an integer: blanks, a sign, the mark of radix 16, digits and their values, and
the rest. -/
structure IntegerText where
  blanks : List Char
  sign : List Char
  negative : Bool
  mark : List Char
  digits : List Char
  values : List ℕ
  rest : List Char

namespace IntegerText

variable {p : IntegerText}

/-- The characters behind the sign. -/
def unsigned (p : IntegerText) : List Char := p.mark ++ (p.digits ++ p.rest)

/-- The whole text. -/
def text (p : IntegerText) : List Char := p.blanks ++ (p.sign ++ p.unsigned)

/-- Every part reaches as far as it can. Digits may have a mark only if one is allowed. -/
structure IsCut (marked : Prop) (radix : ℕ) (p : IntegerText) : Prop where
  blanks : ∀ c ∈ p.blanks, isBlank c = true
  solid : ∀ c ∈ (p.sign ++ p.unsigned).head?, isBlank c = false
  sign : OptionalSign p.sign p.negative
  unsigned : p.sign = [] → ∀ c ∈ p.unsigned.head?, c ≠ '+' ∧ c ≠ '-'
  mark : p.mark = [] ∨ marked ∧ (p.mark, 16) ∈ radixMarks
  unmarked : marked → p.mark = [] → ∀ mark, (mark, 16) ∈ radixMarks → ¬mark <+: p.unsigned
  digits : List.Forall₂ (IsFigure radix) p.digits p.values
  stop : ∀ c ∈ p.rest.head?, ∀ value, ¬IsFigure radix c value

/-- The number of the digits with their sign; NaN for no digits. -/
def number (radix : ℕ) (p : IntegerText) : Float :=
  if p.digits = [] then notANumber else withSign p.negative (digitSum radix p.values)

/-- There are no digits exactly if the number is NaN. -/
theorem isNaN_number {radix : ℕ} (pos : 0 < radix) (small : radix < 2 ^ 53) :
    (p.number radix).isNaN = true ↔ p.digits = [] := by
  unfold number
  split
  · rename_i digitless
    exact iff_of_true isNaN_notANumber digitless
  · rename_i digits
    rw [iff_false_right digits, Bool.not_eq_true]
    exact (isMagnitude_digitSum pos small).isNaN_withSign p.negative

end IntegerText

section Steps

variable {sign body mark text digits rest : List Char} {negative : Bool} {radix w : ℕ} {values : List ℕ}

theorem splitSign_append (signed : OptionalSign sign negative)
    (unsigned : sign = [] → ∀ c ∈ body.head?, c ≠ '+' ∧ c ≠ '-') : splitSign (sign ++ body) = (sign, body) := by
  cases signed with
  | plus => rfl
  | minus => rfl
  | absent =>
    have unsigned := unsigned rfl
    rw [List.nil_append]
    unfold splitSign
    split
    · exact absurd rfl (unsigned _ rfl).1
    · exact absurd rfl (unsigned _ rfl).2
    · rfl

theorem beq_minus (signed : OptionalSign sign negative) : (sign == ['-']) = negative := by
  cases signed <;> rfl

/-- The radix that is meant, and what stands behind its mark. -/
def behindMark (w : ℕ) (text : List Char) : ℕ × List Char :=
  if w = 0 ∨ w = 16 then
    match text with
    | '0' :: 'x' :: rest | '0' :: 'X' :: rest => (16, rest)
    | _ => (w, text)
  else (w, text)

/-- The values of the digits at the front of a text. -/
def frontValues (radix : ℕ) (text : List Char) : List ℕ :=
  (text.map (digitValue? radix)).takeWhile Option.isSome |>.filterMap id

/-- The number of the digits at the front of a text, in radix ten if none is given. -/
def frontNumber (negative : Bool) (radix : ℕ) (text : List Char) : Float :=
  let radix := if radix = 0 then 10 else radix
  if radix < 2 ∨ 36 < radix then notANumber
  else if (frontValues radix text).isEmpty then notANumber
  else withSign negative (digitSum radix (frontValues radix text))

theorem readInteger_eq (s : String) (x : Float) : readInteger s x =
    frontNumber ((splitSign (trimStart s.toList)).1 == ['-'])
      (behindMark (toWord x) (splitSign (trimStart s.toList)).2).1
      (behindMark (toWord x) (splitSign (trimStart s.toList)).2).2 := rfl

/-- The radix of digits, by the radix that is asked for and the mark in front of them. -/
def meantRadix (w : ℕ) (mark : List Char) : ℕ := if mark ≠ [] then 16 else if w = 0 then 10 else w

theorem hexMark_iff : (mark, 16) ∈ radixMarks ↔ mark = ['0', 'x'] ∨ mark = ['0', 'X'] := by
  simp [radixMarks]

theorem behindMark_append (marked : mark = [] ∨ (w = 0 ∨ w = 16) ∧ (mark, 16) ∈ radixMarks)
    (unmarked : (w = 0 ∨ w = 16) → mark = [] → ∀ other, (other, 16) ∈ radixMarks → ¬other <+: mark ++ body) :
    behindMark w (mark ++ body) = (if mark = [] then w else 16, body) := by
  unfold behindMark
  rcases marked with rfl | ⟨allowed, member⟩
  · rw [if_pos rfl, List.nil_append]
    split
    · rename_i allowed
      have plain := unmarked allowed rfl
      split
      · exact absurd ⟨_, rfl⟩ (plain ['0', 'x'] (by decide))
      · exact absurd ⟨_, rfl⟩ (plain ['0', 'X'] (by decide))
      · rfl
    · rfl
  · rw [if_pos allowed]
    rcases hexMark_iff.1 member with rfl | rfl <;> rfl

theorem frontValues_append (known : radix ≤ 36) (figures : List.Forall₂ (IsFigure radix) digits values)
    (stop : ∀ c ∈ rest.head?, ∀ value, ¬IsFigure radix c value) : frontValues radix (digits ++ rest) = values := by
  unfold frontValues
  induction figures with
  | nil =>
    cases rest with
    | nil => rfl
    | cons c rest =>
      have ends : digitValue? radix c = none :=
        Option.eq_none_iff_forall_ne_some.2 fun value read => stop c rfl value ((digitValue?_eq_some known).1 read)
      simp [ends]
  | cons here _ ih =>
    rw [List.cons_append, List.map_cons, (digitValue?_eq_some known).2 here]
    simpa using ih

end Steps

namespace IntegerText

variable {p : IntegerText} {x : Float} {w : ℕ}

theorem values_eq_nil {radix : ℕ} (figures : List.Forall₂ (IsFigure radix) p.digits p.values) :
    p.values.isEmpty = true ↔ p.digits = [] := by
  rw [List.isEmpty_iff, ← List.length_eq_zero_iff, ← figures.length_eq, List.length_eq_zero_iff]

/-- The parts of a text are read. -/
theorem readInteger_text (cut : p.IsCut (w = 0 ∨ w = 16) (meantRadix w p.mark)) (word : toWord x = w)
    (known : 2 ≤ meantRadix w p.mark ∧ meantRadix w p.mark ≤ 36) :
    readInteger (String.ofList p.text) x = p.number (meantRadix w p.mark) := by
  have blanks : trimStart p.text = p.sign ++ p.unsigned := (takeWhile_dropWhile_append cut.blanks cut.solid).2
  have marked : behindMark w p.unsigned = (if p.mark = [] then w else 16, p.digits ++ p.rest) :=
    behindMark_append cut.mark cut.unmarked
  have meant : (if (if p.mark = [] then w else 16) = 0 then 10 else if p.mark = [] then w else 16) =
      meantRadix w p.mark := by
    unfold meantRadix
    grind
  rw [readInteger_eq, String.toList_ofList, blanks, splitSign_append cut.sign cut.unsigned, word, marked, frontNumber]
  dsimp only
  rw [meant, if_neg (by omega), frontValues_append known.2 cut.digits cut.stop, beq_minus cut.sign, number]
  simp only [values_eq_nil cut.digits]

theorem exists_sign (text : List Char) : ∃ sign negative behind, text = sign ++ behind ∧ OptionalSign sign negative ∧
    (sign = [] → ∀ c ∈ behind.head?, c ≠ '+' ∧ c ≠ '-') := by
  cases text with
  | nil => exact ⟨[], false, [], rfl, .absent, fun _ => nofun⟩
  | cons c rest =>
    by_cases plus : c = '+'
    · exact ⟨['+'], false, rest, by rw [plus]; rfl, .plus, nofun⟩
    · by_cases minus : c = '-'
      · exact ⟨['-'], true, rest, by rw [minus]; rfl, .minus, nofun⟩
      · refine ⟨[], false, c :: rest, rfl, .absent, fun _ d head => ?_⟩
        cases head
        exact ⟨plus, minus⟩

theorem exists_mark (marked : Prop) (text : List Char) : ∃ mark behind, text = mark ++ behind ∧
    (mark = [] ∨ marked ∧ (mark, 16) ∈ radixMarks) ∧
    (marked → mark = [] → ∀ other, (other, 16) ∈ radixMarks → ¬other <+: text) := by
  by_cases found : marked ∧ ∃ mark, (mark, 16) ∈ radixMarks ∧ mark <+: text
  · obtain ⟨allowed, mark, member, behind, rfl⟩ := found
    refine ⟨mark, behind, rfl, .inr ⟨allowed, member⟩, fun _ markless => ?_⟩
    rw [markless] at member
    exact absurd member (by decide)
  · exact ⟨[], text, rfl, .inl rfl, fun allowed _ other member heads => found ⟨allowed, other, member, heads⟩⟩

theorem exists_figures (radix : ℕ) (text : List Char) : ∃ digits values rest, text = digits ++ rest ∧
    List.Forall₂ (IsFigure radix) digits values ∧ ∀ c ∈ rest.head?, ∀ value, ¬IsFigure radix c value := by
  induction text with
  | nil => exact ⟨[], [], [], rfl, .nil, nofun⟩
  | cons c text ih =>
    by_cases figure : ∃ value, IsFigure radix c value
    · obtain ⟨value, here⟩ := figure
      obtain ⟨digits, values, rest, rfl, figures, stop⟩ := ih
      exact ⟨c :: digits, value :: values, rest, rfl, .cons here figures, stop⟩
    · refine ⟨[], [], c :: text, rfl, .nil, fun d head value here => figure ⟨value, ?_⟩⟩
      cases head
      exact here

/-- Every text can be taken apart, also where the radix depends on the mark. -/
theorem exists_cut (text : List Char) (marked : Prop) (radix : List Char → ℕ) :
    ∃ p : IntegerText, p.text = text ∧ p.IsCut marked (radix p.mark) := by
  have blanks := List.takeWhile_append_dropWhile (p := isBlank) (l := text)
  have solid : ∀ c ∈ (text.dropWhile isBlank).head?, isBlank c = false := by
    obtain ⟨-, -, stop⟩ := takeWhile_eq_some.1 (rfl : takeWhile isBlank text = _)
    exact stop
  obtain ⟨sign, negative, unsigned, body, signed, unsignedHead⟩ := exists_sign (text.dropWhile isBlank)
  obtain ⟨mark, figures, rfl, marks, unmarked⟩ := exists_mark marked unsigned
  obtain ⟨digits, values, rest, rfl, figures, stop⟩ := exists_figures (radix mark) figures
  rw [body] at blanks solid
  exact ⟨⟨text.takeWhile isBlank, sign, negative, mark, digits, values, rest⟩, blanks,
    List.all_eq_true.1 List.all_takeWhile, solid, signed, unsignedHead, marks, unmarked, figures, stop⟩

end IntegerText

section Words

variable {x : Float} {n : ℤ}

theorem toWord_eq_position (x : Float) : toWord x = Value.position (2 ^ 32 - 1) x := by
  unfold toWord Value.position
  cases exact x <;> rfl

theorem toWord_of_integer (place : integerPlace x = .ofInt n) : toWord x = min n.toNat (2 ^ 32 - 1) := by
  have clamped := Value.isClamped_position (2 ^ 32 - 1) x
  rw [place, Extended.isClamped_ofInt] at clamped
  rw [toWord_eq_position, clamped]

/-- A positive number that is no radix is a word that is none. -/
theorem toWord_unknown (positive : 0 < integerPlace x)
    (unknown : ∀ r : ℕ, 2 ≤ r → r ≤ 36 → integerPlace x ≠ .ofInt r) : toWord x = 1 ∨ 36 < toWord x := by
  have clamped := Value.isClamped_position (2 ^ 32 - 1) x
  rw [← toWord_eq_position] at clamped
  rcases (integerPlace x).cases with bottom | top | ⟨n, place⟩
  · rw [bottom] at positive
    exact absurd positive not_lt_bot
  · rw [top] at clamped
    have largest := clamped.unique (Extended.isClamped_top _)
    omega
  · rw [place] at positive unknown
    have positive : 0 < n := Extended.ofInt_lt_iff.1 positive
    have unknown : ¬(2 ≤ n ∧ n ≤ 36) := fun ⟨low, high⟩ =>
      unknown n.toNat (by omega) (by omega) (congrArg Extended.ofInt (by omega))
    rw [toWord_of_integer place]
    omega

theorem readInteger_unknown (s : String) (unknown : toWord x = 1 ∨ 36 < toWord x) : readInteger s x = notANumber := by
  have unmarked (text : List Char) : behindMark (toWord x) text = (toWord x, text) := if_neg (by omega)
  have nonzero : toWord x ≠ 0 := by omega
  rw [readInteger_eq, unmarked, frontNumber, if_neg nonzero]
  exact if_pos (by omega)

end Words

namespace IntegerText

variable {p : IntegerText} {x : Float} {r : ℕ}

/-- A radix that is asked for allows its own mark only. -/
theorem readInteger_radix (cut : p.IsCut (r = 16) r) (least : 2 ≤ r) (greatest : r ≤ 36)
    (place : integerPlace x = .ofInt r) : readInteger (String.ofList p.text) x = p.number r := by
  have word : toWord x = r := (toWord_of_integer place).trans (by omega)
  have allowed : (r = 0 ∨ r = 16) = (r = 16) := propext (or_iff_right (by omega))
  have meant : meantRadix r p.mark = r := by
    unfold meantRadix
    rcases cut.mark with markless | ⟨sixteen, -⟩
    · rw [if_neg (not_not_intro markless), if_neg (by omega)]
    · split_ifs <;> omega
  have read := readInteger_text (p := p) (w := r) (by rwa [allowed, meant]) word
    (by rw [meant]; exact ⟨least, greatest⟩)
  rwa [meant] at read

/-- Without a radix the mark decides. -/
theorem readInteger_unmarked (cut : p.IsCut True (if p.mark = [] then 10 else 16)) (place : integerPlace x = 0) :
    readInteger (String.ofList p.text) x = p.number (if p.mark = [] then 10 else 16) := by
  have word : toWord x = 0 := toWord_of_integer place
  have allowed : (0 = 0 ∨ 0 = 16) = True := by decide
  have meant : meantRadix 0 p.mark = if p.mark = [] then 10 else 16 := by
    simp only [meantRadix, if_true, ite_not]
  have read := readInteger_text (p := p) (w := 0) (by rwa [allowed, meant]) word
    (by rw [meant]; split <;> decide)
  rwa [meant] at read

end IntegerText

end Reckoner.Number

namespace Reckoner.Builtin

open Number

/-- A number is read from the parts of a text. -/
structure Reads (text : List Char) (marked : Prop) (radix : ℕ) (x : Float) (p : IntegerText) : Prop where
  text : p.text = text
  cut : p.IsCut marked radix
  number : x = p.number radix
  isNaN : x.isNaN = true ↔ p.digits = []

theorem exists_reads (s : String) {x : Float} {marked : Prop} (radix : List Char → ℕ)
    (known : ∀ mark, 0 < radix mark ∧ radix mark < 2 ^ 53)
    (read : ∀ p : IntegerText, p.IsCut marked (radix p.mark) →
      readInteger (String.ofList p.text) x = p.number (radix p.mark)) :
    ∃ p, Reads s.toList marked (radix p.mark) (readInteger s x) p := by
  obtain ⟨p, text, cut⟩ := IntegerText.exists_cut s.toList marked radix
  obtain ⟨pos, small⟩ := known p.mark
  have number := read p cut
  rw [text, String.ofList_toList] at number
  exact ⟨p, text, cut, number, number ▸ IntegerText.isNaN_number pos small⟩

/-- An integer is read in the radix that is asked for, from the longest front of a text that has its digits behind
blanks, a sign and, for radix 16 or none, the mark of radix 16. It is NaN exactly if there are no digits, and for every
positive number that is no radix. -/
theorem parseInt_reads (args : List Value) :
    ∃ x, call .parseInt args = .ok (.number x) ∧
      (integerPlace (argument args 1).toNumber = 0 →
        ∃ p, Reads (argument args 0).text.toList True (if p.mark = [] then 10 else 16) x p) ∧
      (∀ r : ℕ, 2 ≤ r → r ≤ 36 → integerPlace (argument args 1).toNumber = .ofInt r →
        ∃ p, Reads (argument args 0).text.toList (r = 16) r x p) ∧
      (0 < integerPlace (argument args 1).toNumber →
        (∀ r : ℕ, 2 ≤ r → r ≤ 36 → integerPlace (argument args 1).toNumber ≠ .ofInt r) → x.isNaN = true) := by
  refine ⟨readInteger (argument args 0).text (argument args 1).toNumber, rfl, fun place => ?_,
    fun r least greatest place => ?_, fun positive unknown => ?_⟩
  · exact exists_reads _ (fun mark => if mark = [] then 10 else 16) (fun mark => by split <;> decide)
      fun p cut => IntegerText.readInteger_unmarked cut place
  · exact exists_reads _ (fun _ => r) (fun _ => by omega) fun p cut =>
      IntegerText.readInteger_radix cut least greatest place
  · rw [readInteger_unknown _ (toWord_unknown positive unknown)]
    exact isNaN_notANumber

/-- A negative number that is no radix is taken for none. -/
theorem parseInt_negative : ¬∀ args : List Value, integerPlace (argument args 1).toNumber ≠ 0 →
    (∀ r : ℕ, 2 ≤ r → r ≤ 36 → integerPlace (argument args 1).toNumber ≠ .ofInt r) →
      ∃ x, call .parseInt args = .ok (.number x) ∧ x.isNaN = true := by
  intro every
  have place : integerPlace (-5.0) = .ofInt (-5) := by
    have opposite := (hasValue_literal 5 (by decide)).neg
    rw [← Int.cast_neg] at opposite
    exact opposite.integerPlace
  obtain ⟨x, called, nan⟩ := every [.string "10", .number (-5.0)]
    (fun zero => absurd (Extended.ofInt_inj.1 (place.symm.trans zero)) (by decide))
    (fun r least _ same => by
      have := Extended.ofInt_inj.1 (place.symm.trans same)
      omega)
  have number : readInteger "10" (-5.0) = x := Value.number.inj (Except.ok.inj called)
  have solid : (readInteger "10" (-5.0)).isNaN = false := by decide +kernel
  rw [number, nan] at solid
  cases solid

end Reckoner.Builtin
