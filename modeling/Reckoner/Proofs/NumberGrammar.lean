import Reckoner.Proofs.LiteralText
import Reckoner.Proofs.NearestNumber
import Reckoner.Proofs.RadixDigits

namespace Reckoner.Number

open Text Text.Reader

/-- A plus or minus sign, or none. -/
inductive OptionalSign : List Char → Bool → Prop
  | absent : OptionalSign [] false
  | plus : OptionalSign ['+'] false
  | minus : OptionalSign ['-'] true

/-- The exponent of a decimal literal, which is zero if none is written. -/
inductive ExponentPart : List Char → ℤ → Prop
  | absent : ExponentPart [] 0
  | written {mark : Char} {sign digits : List Char} {negative : Bool} {n : ℕ} : mark = 'e' ∨ mark = 'E' →
      OptionalSign sign negative → IsNatural 10 digits n →
      ExponentPart (mark :: (sign ++ digits)) (if negative then -n else n)

/-- The digits of a decimal literal, read without their point, and how many of them stand behind the point. -/
inductive Mantissa : List Char → ℕ → ℕ → Prop
  | whole {digits : List Char} {n : ℕ} : IsNatural 10 digits n → Mantissa digits n 0
  | pointed {whole fraction : List Char} {n : ℕ} : IsNatural 10 (whole ++ fraction) n →
      Mantissa (whole ++ '.' :: fraction) n fraction.length

/-- The marks of the radices other than ten. -/
def radixMarks : List (List Char × ℕ) :=
  [(['0', 'x'], 16), (['0', 'X'], 16), (['0', 'o'], 8), (['0', 'O'], 8), (['0', 'b'], 2), (['0', 'B'], 2)]

/-- What a number text denotes. -/
inductive Denoted where
  | infinite (negative : Bool)
  | rational (negative : Bool) (magnitude : ℚ)

/-- The complete number texts. -/
inductive NumberText : List Char → Denoted → Prop
  | empty : NumberText [] (.rational false 0)
  | infinite {sign : List Char} {negative : Bool} : OptionalSign sign negative →
      NumberText (sign ++ "Infinity".toList) (.infinite negative)
  | radix {mark digits : List Char} {radix n : ℕ} : (mark, radix) ∈ radixMarks → IsNatural radix digits n →
      NumberText (mark ++ digits) (.rational false n)
  | decimal {sign mantissa ending : List Char} {negative : Bool} {n places : ℕ} {e : ℤ} :
      OptionalSign sign negative → Mantissa mantissa n places → ExponentPart ending e →
      NumberText (sign ++ (mantissa ++ ending)) (.rational negative (n * 10 ^ (e - places)))

/-- A number is what is denoted, rounded to the nearest number. -/
def Denoted.IsHeldBy : Denoted → Float → Prop
  | .infinite negative, x => exact x = .infinite negative
  | .rational negative magnitude, x => ∃ y, IsNearest magnitude y ∧ x = withSign negative y

section Digits

variable {text digits sign mantissa ending : List Char} {n places : ℕ} {e : ℤ} {negative : Bool}

theorem isDigit_of_digitValue? {c : Char} {value : ℕ} (read : digitValue? 10 c = some value) : c.isDigit = true := by
  obtain ⟨below, -⟩ := Option.ite_none_right_eq_some.mp read
  by_contra other
  rw [if_neg other] at below
  split_ifs at below <;> omega

theorem forall₂_isFigure_ten {values : List ℕ} : List.Forall₂ (IsFigure 10) text values ↔
    (∀ c ∈ text, c.isDigit = true) ∧ text.map (fun c => (digitValue? 10 c).getD 0) = values := by
  induction text generalizing values with
  | nil => exact List.forall₂_nil_left_iff.trans ⟨fun empty => ⟨nofun, empty.symm⟩, fun both => both.2.symm⟩
  | cons c text ih =>
    rw [List.forall_mem_cons, List.map_cons]
    constructor
    · rintro (_ | ⟨here, later⟩)
      have read := (digitValue?_eq_some (by decide)).2 here
      obtain ⟨digits, rfl⟩ := ih.1 later
      exact ⟨⟨isDigit_of_digitValue? read, digits⟩, by rw [read]; rfl⟩
    · rintro ⟨⟨digit, digits⟩, rfl⟩
      refine .cons ((digitValue?_eq_some (by decide)).1 ?_) (ih.2 ⟨digits, rfl⟩)
      rw [digitValue?_of_isDigit digit, Option.getD_some]

/-- Decimal digits and the number that they denote. -/
theorem isNatural_ten :
    IsNatural 10 text n ↔ text ≠ [] ∧ (∀ c ∈ text, c.isDigit = true) ∧ ofDecimalDigits text = n := by
  rw [IsNatural, ofDecimalDigits, ofDigits_eq]
  simp only [forall₂_isFigure_ten]
  refine and_congr_right fun _ => ⟨?_, fun known => ⟨_, ⟨known.1, rfl⟩, known.2⟩⟩
  rintro ⟨values, ⟨digits, rfl⟩, value⟩
  exact ⟨digits, value⟩

theorem IsNatural.lt_pow (natural : IsNatural 10 text n) : n < 10 ^ text.length := by
  obtain ⟨-, digits, rfl⟩ := isNatural_ten.1 natural
  rw [ofDecimalDigits_eq digits]
  simpa using ofDigitChars_lt digits 0

/-- The exponent that is read for a written one: it is the same, or both are far from zero on the same side. -/
def ReadsAs (e read : ℤ) : Prop :=
  read = e ∨ 10 * 2 ^ 16 ≤ e ∧ 2 ^ 16 ≤ read ∨ e ≤ -(10 * 2 ^ 16) ∧ read ≤ -2 ^ 16

theorem exponentSign_append {body : List Char} (signed : OptionalSign sign negative)
    (unsigned : ∀ c ∈ body.head?, c ≠ '+' ∧ c ≠ '-') : exponentSign (sign ++ body) = (negative, body) := by
  cases signed with
  | plus => rfl
  | minus => rfl
  | absent =>
    rw [List.nil_append]
    unfold exponentSign
    split
    · exact absurd rfl (unsigned _ rfl).1
    · exact absurd rfl (unsigned _ rfl).2
    · rfl

theorem exists_exponentSign (text : List Char) :
    ∃ sign, OptionalSign sign (exponentSign text).1 ∧ text = sign ++ (exponentSign text).2 := by
  unfold exponentSign
  split
  · exact ⟨_, .plus, rfl⟩
  · exact ⟨_, .minus, rfl⟩
  · exact ⟨_, .absent, rfl⟩

theorem ne_sign_of_isDigit {c : Char} (digit : c.isDigit = true) : c ≠ '+' ∧ c ≠ '-' := by
  constructor <;> rintro rfl <;> cases digit

theorem readExponent?_cons (c : Char) (text : List Char) : readExponent? (c :: text) =
    if c = 'e' ∨ c = 'E' then exponentSize (exponentSign text).1 (exponentSign text).2 else none := by
  rw [exponentSize_eq]
  rfl

theorem readExponent?_of_part (part : ExponentPart ending e) (nonempty : ending ≠ []) :
    ∃ read, ReadsAs e read ∧ readExponent? ending = some (read, []) := by
  cases part with
  | absent => exact absurd rfl nonempty
  | @written mark sign digits negative n marked signed natural =>
    obtain ⟨nonempty, figures, rfl⟩ := isNatural_ten.1 natural
    have unsigned : ∀ c ∈ digits.head?, c ≠ '+' ∧ c ≠ '-' :=
      fun c head => ne_sign_of_isDigit (figures c (List.mem_of_mem_head? head))
    have run : takeWhile1 Char.isDigit digits = some (digits, []) :=
      takeWhile1_eq_some.2 ⟨(List.append_nil _).symm, nonempty, figures, nofun⟩
    have reads := ofExponentDigits_reads figures
    rw [← ofDecimalDigits_eq figures] at reads
    refine ⟨if negative then -(ofExponentDigits digits : ℤ) else ofExponentDigits digits, ?_, ?_⟩
    · unfold ReadsAs
      cases negative <;> simp <;> omega
    · rw [readExponent?_cons, if_pos marked, exponentSign_append signed unsigned]
      exact map_eq_some.2 ⟨digits, run, rfl⟩

theorem part_of_readExponent? {read : ℤ} (taken : readExponent? ending = some (read, [])) :
    ∃ e, ExponentPart ending e := by
  cases ending with
  | nil => cases taken
  | cons c text =>
    rw [readExponent?_cons] at taken
    split at taken
    · rename_i marked
      obtain ⟨sign, signed, split⟩ := exists_exponentSign text
      obtain ⟨digits, run, -⟩ := map_eq_some.1 taken
      obtain ⟨spelled, nonempty, figures, -⟩ := takeWhile1_eq_some.1 run
      rw [spelled, List.append_nil] at split
      rw [split]
      exact ⟨_, .written marked signed (isNatural_ten.2 ⟨nonempty, figures, rfl⟩)⟩
    · cases taken

/-- A number ends with its exponent. -/
theorem literalWith?_of_part (whole fraction : List Char) (part : ExponentPart ending e) :
    ∃ read, ReadsAs e read ∧ literalWith? whole fraction ending = some (⟨whole, fraction, read⟩, []) := by
  rcases eq_or_ne ending [] with rfl | nonempty
  · cases part
    exact ⟨0, .inl rfl, rfl⟩
  · obtain ⟨read, reads, taken⟩ := readExponent?_of_part part nonempty
    exact ⟨read, reads, by rw [literalWith?, taken]⟩

theorem part_of_literalWith? {whole fraction : List Char} {l : Literal}
    (taken : literalWith? whole fraction ending = some (l, [])) : ∃ e, ExponentPart ending e := by
  unfold literalWith? at taken
  split at taken
  · cases taken
    exact part_of_readExponent? ‹_›
  · cases taken
    exact ⟨0, .absent⟩

theorem ExponentPart.head (part : ExponentPart ending e) : ∀ c ∈ ending.head?, c.isDigit = false ∧ c ≠ '.' := by
  cases part with
  | absent => exact nofun
  | written marked _ _ =>
    rintro c ⟨⟩
    rcases marked with rfl | rfl <;> decide

/-- A decimal literal is read with its digits and an exponent. -/
theorem readLiteral?_of_parts (digits : Mantissa mantissa n places) (part : ExponentPart ending e) :
    ∃ whole fraction read, ReadsAs e read ∧ IsNatural 10 (whole ++ fraction) n ∧ fraction.length = places ∧
      (whole ++ fraction).length ≤ mantissa.length ∧
      readLiteral? (mantissa ++ ending) = some (⟨whole, fraction, read⟩, []) := by
  have stop : ∀ c ∈ ending.head?, c.isDigit = false := fun c head => (part.head c head).1
  rw [readLiteral?_eq_literalWith?]
  dsimp only
  cases digits with
  | @whole _ _ natural =>
    obtain ⟨nonempty, figures, -⟩ := isNatural_ten.1 natural
    obtain ⟨run, rest⟩ := takeWhile_dropWhile_append figures stop
    have parts : fraction mantissa ending = ([], ending) := by
      unfold fraction
      split
      · exact absurd rfl (part.head _ rfl).2
      · rfl
    obtain ⟨read, reads, taken⟩ := literalWith?_of_part mantissa [] part
    refine ⟨mantissa, [], read, reads, by rwa [List.append_nil], rfl, by rw [List.append_nil], ?_⟩
    rw [run, rest, parts, List.isEmpty_eq_false_iff.2 nonempty]
    exact taken
  | @pointed whole fraction _ natural =>
    obtain ⟨nonempty, figures, -⟩ := isNatural_ten.1 natural
    obtain ⟨wholeFigures, fractionFigures⟩ := List.forall_mem_append.1 figures
    have point : ∀ c ∈ ('.' :: (fraction ++ ending)).head?, c.isDigit = false := by simp
    obtain ⟨run, rest⟩ := takeWhile_dropWhile_append wholeFigures point
    obtain ⟨run', rest'⟩ := takeWhile_dropWhile_append fractionFigures stop
    have given : (whole.isEmpty && fraction.isEmpty) = false := by
      rw [Bool.eq_false_iff, ne_eq, Bool.and_eq_true, List.isEmpty_iff, List.isEmpty_iff, ← List.append_eq_nil_iff]
      exact nonempty
    have parts : Number.fraction whole ('.' :: (fraction ++ ending)) = (fraction, ending) := by
      rw [Number.fraction, run', rest', given, if_neg Bool.false_ne_true]
    obtain ⟨read, reads, taken⟩ := literalWith?_of_part whole fraction part
    refine ⟨whole, fraction, read, reads, natural, rfl, by simp, ?_⟩
    rw [List.append_assoc, List.cons_append, run, rest, parts, given]
    exact taken

theorem fraction_cases (whole text : List Char) :
    (fraction whole text).1 = [] ∧ (fraction whole text).2 = text ∨
      text = '.' :: ((fraction whole text).1 ++ (fraction whole text).2) ∧
        ∀ c ∈ (fraction whole text).1, c.isDigit = true := by
  unfold fraction
  split
  · split
    · exact .inl ⟨rfl, rfl⟩
    · exact .inr ⟨by rw [List.takeWhile_append_dropWhile], List.all_eq_true.1 List.all_takeWhile⟩
  · exact .inl ⟨rfl, rfl⟩

theorem parts_of_readLiteral? {l : Literal} (read : readLiteral? text = some (l, [])) :
    ∃ mantissa ending n places e, Mantissa mantissa n places ∧ ExponentPart ending e ∧ text = mantissa ++ ending := by
  rw [readLiteral?_eq_literalWith?] at read
  dsimp only at read
  have spelled : text = text.takeWhile Char.isDigit ++ text.dropWhile Char.isDigit :=
    List.takeWhile_append_dropWhile.symm
  have wholeFigures : ∀ c ∈ text.takeWhile Char.isDigit, c.isDigit = true := List.all_eq_true.1 List.all_takeWhile
  generalize text.takeWhile Char.isDigit = whole at *
  generalize text.dropWhile Char.isDigit = behind at *
  have cut := fraction_cases whole behind
  generalize fraction whole behind = parts at *
  obtain ⟨fraction, ending⟩ := parts
  split at read
  · cases read
  rename_i given
  obtain ⟨e, part⟩ := part_of_literalWith? read
  rw [Bool.and_eq_true, List.isEmpty_iff, List.isEmpty_iff, ← List.append_eq_nil_iff] at given
  rcases cut with ⟨rfl, rfl⟩ | ⟨point, figures⟩
  · rw [List.append_nil] at given
    exact ⟨whole, ending, _, _, e, .whole (isNatural_ten.2 ⟨given, wholeFigures, rfl⟩), part, spelled⟩
  · have natural := isNatural_ten.2 ⟨given, List.forall_mem_append.2 ⟨wholeFigures, figures⟩, rfl⟩
    refine ⟨whole ++ '.' :: fraction, ending, _, _, e, .pointed natural, part, ?_⟩
    rw [spelled, point, List.append_assoc, List.cons_append]

end Digits

/-- A decimal literal with a sign, by the literal behind the sign. -/
theorem readDecimal?_eq_some {text : List Char} {x : Float} : readDecimal? text = some x ↔
    ∃ l, readLiteral? (exponentSign text).2 = some (l, []) ∧ withSign (exponentSign text).1 l.value = x := by
  unfold readDecimal? exponentSign
  grind

theorem Mantissa.head {mantissa : List Char} {n places : ℕ} (digits : Mantissa mantissa n places) :
    mantissa ≠ [] ∧ ∀ c ∈ mantissa.head?, c ≠ '+' ∧ c ≠ '-' := by
  cases digits with
  | whole natural =>
    obtain ⟨nonempty, figures, -⟩ := isNatural_ten.1 natural
    exact ⟨nonempty, fun c head => ne_sign_of_isDigit (figures c (List.mem_of_mem_head? head))⟩
  | @pointed whole fraction _ natural =>
    obtain ⟨-, figures, -⟩ := isNatural_ten.1 natural
    refine ⟨List.append_ne_nil_of_right_ne_nil _ (List.cons_ne_nil _ _), fun c head => ?_⟩
    cases whole with
    | nil =>
      cases head
      decide
    | cons d whole =>
      cases head
      exact ne_sign_of_isDigit (figures _ (List.mem_append_left _ List.mem_cons_self))

section Values

variable {n places size : ℕ} {e read k : ℤ} {a b : ℚ} {x : Float}

theorem IsNearest.of_overflow (nearest : IsNearest a x) (large : overflow ≤ a) (large' : overflow ≤ b) :
    IsNearest b x := by
  rcases nearest.cases with ⟨m, q, content⟩ | ⟨content, -⟩
  · exact absurd large (not_le.2 (nearest.of_exact content).1)
  · exact (isNearest_of_infinite content).2 large'

theorem IsNearest.of_tiny (nearest : IsNearest a x) (nonnegative : 0 ≤ a) (tiny : a ≤ 2 ^ (-1075 : ℤ))
    (nonnegative' : 0 ≤ b) (tiny' : b ≤ 2 ^ (-1075 : ℤ)) : IsNearest b x := by
  rw [nearest.unique (isNearest_zero nonnegative tiny)]
  exact isNearest_zero nonnegative' tiny'

theorem overflow_le_decimal (pos : 0 < n) (large : 400 ≤ k) : overflow ≤ n * 10 ^ k := by
  have one_le : (1 : ℚ) ≤ n := by exact_mod_cast pos
  calc overflow ≤ 2 ^ (1024 : ℤ) := overflow_le
    _ ≤ 10 ^ (400 : ℤ) := powers_of_ten.2.le
    _ ≤ 10 ^ k := zpow_le_zpow_right₀ (by norm_num) large
    _ ≤ n * 10 ^ k := le_mul_of_one_le_left (by positivity) one_le

theorem decimal_le_tiny (small : n < 10 ^ size) (tiny : size + k ≤ -400) : (n : ℚ) * 10 ^ k ≤ 2 ^ (-1075 : ℤ) := by
  have small : (n : ℚ) ≤ 10 ^ size := by exact_mod_cast small.le
  calc (n : ℚ) * 10 ^ k ≤ 10 ^ size * 10 ^ k := mul_le_mul_of_nonneg_right small (by positivity)
    _ = 10 ^ (size + k) := by rw [zpow_add₀ (by norm_num), zpow_natCast]
    _ ≤ 10 ^ (-400 : ℤ) := zpow_le_zpow_right₀ (by norm_num) tiny
    _ ≤ 2 ^ (-1075 : ℤ) := powers_of_ten.1.le

/-- It does not matter that an exponent is not read to its end, unless there are very many digits. -/
theorem ReadsAs.isNearest (reads : ReadsAs e read) (small : n < 10 ^ size) (behind : places ≤ size)
    (short : e.natAbs < 10 * 2 ^ 16 ∨ size ≤ 65000) (nearest : IsNearest (n * 10 ^ (read - places)) x) :
    IsNearest (n * 10 ^ (e - places)) x := by
  rcases reads with rfl | ⟨far, large⟩ | ⟨far, large⟩
  · exact nearest
  · rcases n.eq_zero_or_pos with rfl | pos
    · simpa using nearest
    · exact nearest.of_overflow (overflow_le_decimal pos (by omega)) (overflow_le_decimal pos (by omega))
  · exact nearest.of_tiny (by positivity) (decimal_le_tiny small (by omega)) (by positivity)
      (decimal_le_tiny small (by omega))

end Values

section Decimals

variable {sign mantissa ending text : List Char} {negative : Bool} {n places : ℕ} {e : ℤ}

theorem readDecimal?_of_parts (signed : OptionalSign sign negative) (digits : Mantissa mantissa n places)
    (part : ExponentPart ending e) : ∃ x, readDecimal? (sign ++ (mantissa ++ ending)) = some (withSign negative x) ∧
      (e.natAbs < 10 * 2 ^ 16 ∨ mantissa.length ≤ 65000 → IsNearest (n * 10 ^ (e - places)) x) := by
  obtain ⟨whole, fraction, read, reads, natural, rfl, size, taken⟩ := readLiteral?_of_parts digits part
  obtain ⟨nonempty, unsigned⟩ := digits.head
  have split : exponentSign (sign ++ (mantissa ++ ending)) = (negative, mantissa ++ ending) := by
    refine exponentSign_append signed ?_
    rwa [List.head?_append_of_ne_nil _ nonempty]
  refine ⟨_, readDecimal?_eq_some.2 ⟨_, by rw [split, taken], by rw [split]⟩, fun short => ?_⟩
  have small := natural.lt_pow
  obtain ⟨-, figures, rfl⟩ := isNatural_ten.1 natural
  refine reads.isNearest small (by simp) (short.imp_right size.trans) ?_
  exact isNearest_nearest figures (read - fraction.length)

theorem parts_of_readDecimal? {x : Float} (read : readDecimal? text = some x) :
    ∃ sign negative mantissa n places ending e, OptionalSign sign negative ∧ Mantissa mantissa n places ∧
      ExponentPart ending e ∧ text = sign ++ (mantissa ++ ending) := by
  obtain ⟨l, taken, -⟩ := readDecimal?_eq_some.1 read
  obtain ⟨mantissa, ending, n, places, e, digits, part, spelled⟩ := parts_of_readLiteral? taken
  obtain ⟨sign, signed, split⟩ := exists_exponentSign text
  exact ⟨sign, _, mantissa, n, places, ending, e, signed, digits, part, spelled ▸ split⟩

end Decimals

end Reckoner.Number
