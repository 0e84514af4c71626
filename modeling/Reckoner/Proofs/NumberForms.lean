import Reckoner.Proofs.IntegerReading
import Reckoner.Proofs.PathText

namespace Reckoner.Number

open Text Text.Reader

/-- The longest front of a text that has a form. -/
structure IsLongest (form : List Char → Prop) (text d : List Char) : Prop where
  front : d <+: text
  shape : form d
  longest : ∀ other, other <+: text → form other → other.length ≤ d.length

/-- The longest front of a text that has a form, if there is one. -/
def Finds (form : List Char → Prop) (text : List Char) : Option (List Char) → Prop
  | some d => IsLongest form text d
  | none => ∀ d, d <+: text → ¬form d

/-- One form behind another. -/
def Joined (first last : List Char → Prop) (text : List Char) : Prop := ∃ x y, text = x ++ y ∧ first x ∧ last y

/-- A plus or minus sign, or none. -/
def IsSign (text : List Char) : Prop := ∃ negative, OptionalSign text negative

/-- One or more digits. -/
def IsDigits (digit : Char → Bool) (text : List Char) : Prop := text ≠ [] ∧ ∀ c ∈ text, digit c = true

/-- Digits with an optional point before, among or behind them. -/
inductive IsMantissa (digit : Char → Bool) : List Char → Prop
  | whole {digits : List Char} : IsDigits digit digits → IsMantissa digit digits
  | pointed {whole fraction : List Char} : IsDigits digit (whole ++ fraction) →
      IsMantissa digit (whole ++ '.' :: fraction)

/-- An exponent or none. -/
inductive IsExponent (digit : Char → Bool) : List Char → Prop
  | absent : IsExponent digit []
  | written {mark : Char} {text : List Char} : mark = 'e' ∨ mark = 'E' → Joined IsSign (IsDigits digit) text →
      IsExponent digit (mark :: text)

/-- What stands behind the sign of a number. -/
def IsUnsigned (digit : Char → Bool) (text : List Char) : Prop :=
  text = "Infinity".toList ∨ Joined (IsMantissa digit) (IsExponent digit) text

/-- The form of a number: a sign, and infinity or a decimal literal. -/
def HasNumberForm (digit : Char → Bool) : List Char → Prop := Joined IsSign (IsUnsigned digit)

variable {form first last : List Char → Prop} {digit : Char → Bool} {text rest d x : List Char}
  {found : Option (List Char)}

section Fronts

theorem IsLongest.unique {other : List Char} (one : IsLongest form text d) (two : IsLongest form text other) :
    d = other :=
  (List.prefix_of_prefix_length_le one.front two.front (two.longest d one.front one.shape)).eq_of_length_le
    (one.longest other two.front two.shape)

/-- The longest fronts of two forms make up the longest one of both, if what has the second form does not begin with a
character of the first front. -/
theorem IsLongest.joined (split : x ++ rest = text) (front : IsLongest first text x) (behind : Finds last rest found)
    (apart : ∀ y, last y → ∀ c ∈ y.head?, c ∉ x) : Finds (Joined first last) text (found.map (x ++ ·)) := by
  subst split
  have other {y z : List Char} (split : y ++ z <+: x ++ rest) (begins : first y) (ends : last z) :
      y = x ∧ z <+: rest ∨ z = [] ∧ y.length ≤ x.length := by
    have inside := (List.prefix_append y z).trans split
    have shorter := front.longest y inside begins
    obtain ⟨w, rfl⟩ := List.prefix_of_prefix_length_le inside front.front shorter
    cases w with
    | nil =>
      rw [List.append_nil] at split ⊢
      exact .inl ⟨rfl, (List.prefix_append_right_inj y).1 split⟩
    | cons c w =>
      rw [List.append_assoc, List.prefix_append_right_inj] at split
      cases z with
      | nil => exact .inr ⟨rfl, shorter⟩
      | cons e z =>
        obtain ⟨rfl, -⟩ := List.cons_prefix_cons.1 split
        exact absurd (by simp) (apart _ ends e rfl)
  cases found with
  | none =>
    rintro _ split ⟨y, z, rfl, begins, ends⟩
    rcases other split begins ends with ⟨-, behind'⟩ | ⟨rfl, -⟩
    · exact behind z behind' ends
    · exact behind [] List.nil_prefix ends
  | some z =>
    refine ⟨(List.prefix_append_right_inj x).2 behind.front, ⟨x, z, rfl, front.shape, behind.shape⟩, ?_⟩
    rintro _ split ⟨y, w, rfl, begins, ends⟩
    rw [List.length_append, List.length_append]
    rcases other split begins ends with ⟨rfl, behind'⟩ | ⟨rfl, shorter⟩
    · have := behind.longest w behind' ends
      omega
    · exact Nat.add_le_add shorter (Nat.zero_le _)

theorem prefix_takeWhile (inside : d <+: text) (digits : ∀ c ∈ d, digit c = true) : d <+: text.takeWhile digit := by
  obtain ⟨rest, rfl⟩ := inside
  rw [List.takeWhile_append_of_pos digits]
  exact List.prefix_append ..

theorem finds_digits (digit : Char → Bool) (text : List Char) : Finds (IsDigits digit) text
    (if (text.takeWhile digit).isEmpty then none else some (text.takeWhile digit)) := by
  split
  · rename_i digitless
    rintro d inside ⟨nonempty, digits⟩
    rw [List.isEmpty_iff] at digitless
    have empty := prefix_takeWhile inside digits
    rw [digitless, List.prefix_nil] at empty
    exact nonempty empty
  · rename_i nonempty
    rw [List.isEmpty_iff] at nonempty
    exact ⟨List.takeWhile_prefix digit, ⟨nonempty, List.all_eq_true.1 List.all_takeWhile⟩,
      fun d inside form => (prefix_takeWhile inside form.2).length_le⟩

theorem isLongest_splitSign (text : List Char) : (splitSign text).1 ++ (splitSign text).2 = text ∧
    IsLongest IsSign text (splitSign text).1 ∧ ∀ c ∈ (splitSign text).1, c = '+' ∨ c = '-' := by
  obtain ⟨sign, negative, behind, rfl, signed, unsigned⟩ := IntegerText.exists_sign text
  rw [splitSign_append signed unsigned]
  refine ⟨rfl, ⟨List.prefix_append .., ⟨negative, signed⟩, ?_⟩, ?_⟩
  · rintro other inside ⟨_, other⟩
    cases signed with
    | absent =>
      have unsigned := unsigned rfl
      obtain ⟨rest, rfl⟩ := inside
      cases other with
      | absent => exact le_rfl
      | plus => exact absurd rfl (unsigned '+' rfl).1
      | minus => exact absurd rfl (unsigned '-' rfl).2
    | plus | minus => cases other <;> simp
  · cases signed <;> simp

end Fronts

section Forms

theorem isLongest_written {mark : Char} (marked : mark = 'e' ∨ mark = 'E')
    (behind : Finds (Joined IsSign (IsDigits digit)) text found) :
    IsLongest (IsExponent digit) (mark :: text) (found.elim [] (mark :: ·)) := by
  cases found with
  | none =>
    refine ⟨List.nil_prefix, .absent, fun other inside form => ?_⟩
    cases form with
    | absent => exact le_rfl
    | written _ form => exact absurd form (behind _ (List.cons_prefix_cons.1 inside).2)
  | some d =>
    refine ⟨List.cons_prefix_cons.2 ⟨rfl, behind.front⟩, .written marked behind.shape, fun other inside form => ?_⟩
    cases form with
    | absent => exact Nat.zero_le _
    | written _ form => exact Nat.succ_le_succ (behind.longest _ (List.cons_prefix_cons.1 inside).2 form)

theorem exponentPrefix_cons (c : Char) (text : List Char) : exponentPrefix (c :: text) =
    if c = 'e' ∨ c = 'E' then
      if ((splitSign text).2.takeWhile isDecimalDigit).isEmpty then []
      else c :: ((splitSign text).1 ++ (splitSign text).2.takeWhile isDecimalDigit)
    else [] := rfl

/-- The longest exponent is found. -/
theorem isLongest_exponentPrefix (text : List Char) :
    IsLongest (IsExponent isDecimalDigit) text (exponentPrefix text) := by
  cases text with
  | nil => exact ⟨List.nil_prefix, .absent, fun d inside _ => inside.length_le⟩
  | cons c text =>
    obtain ⟨split, sign, marks⟩ := isLongest_splitSign text
    have apart (y : List Char) (digits : IsDigits isDecimalDigit y) : ∀ c ∈ y.head?, c ∉ (splitSign text).1 := by
      intro c head sign
      have digit := digits.2 c (List.mem_of_mem_head? head)
      rcases marks c sign with rfl | rfl <;> exact absurd digit (by decide)
    have found := sign.joined split (finds_digits isDecimalDigit (splitSign text).2) apart
    by_cases marked : c = 'e' ∨ c = 'E'
    · have written := isLongest_written marked found
      rw [exponentPrefix_cons, if_pos marked]
      split at written <;> rename_i digitless
      · rw [if_pos digitless]
        exact written
      · rw [if_neg digitless]
        exact written
    · rw [exponentPrefix_cons, if_neg marked]
      refine ⟨List.nil_prefix, .absent, fun other inside form => ?_⟩
      cases form with
      | absent => exact le_rfl
      | written mark _ => exact absurd ((List.cons_prefix_cons.1 inside).1 ▸ mark) marked

/-- The digits at the front of a text with a point before, among or behind them, and what comes next. -/
def mantissaPrefix (text : List Char) : List Char × List Char :=
  let (whole, rest) := splitDigits text
  match rest with
  | '.' :: rest =>
    let (fraction, behind) := splitDigits rest
    if whole.isEmpty && fraction.isEmpty then ([], '.' :: rest)
    else (whole ++ '.' :: fraction, behind)
  | rest => (whole, rest)

/-- How much of the digits at the front of a text a front can have. -/
theorem IsMantissa.front {m : List Char} (mantissa : IsMantissa digit m) (inside : m <+: text)
    (point : digit '.' = false) : m ≠ [] ∧ m <+: text.takeWhile digit ∨
      ∃ rest fraction, text.dropWhile digit = '.' :: rest ∧ m = text.takeWhile digit ++ '.' :: fraction ∧
        fraction <+: rest.takeWhile digit ∧ text.takeWhile digit ++ fraction ≠ [] := by
  cases mantissa with
  | whole digits => exact .inl ⟨digits.1, prefix_takeWhile inside digits.2⟩
  | @pointed whole fraction digits =>
    obtain ⟨wholeDigits, fractionDigits⟩ := List.forall_mem_append.1 digits.2
    obtain ⟨rest, rfl⟩ := inside
    have stop : ∀ c ∈ ('.' :: (fraction ++ rest)).head?, digit c = false := by simpa using point
    obtain ⟨taken, dropped⟩ := takeWhile_dropWhile_append wholeDigits stop
    rw [List.append_assoc, List.cons_append, taken, dropped]
    exact .inr ⟨_, fraction, rfl, rfl, prefix_takeWhile (List.prefix_append ..) fractionDigits, digits.1⟩

section Mantissas

variable (point : digit '.' = false)

include point

theorem isLongest_pointed (behind : text.dropWhile digit = '.' :: rest)
    (nonempty : text.takeWhile digit ++ rest.takeWhile digit ≠ []) :
    IsLongest (IsMantissa digit) text (text.takeWhile digit ++ '.' :: rest.takeWhile digit) := by
  have spelled : text.takeWhile digit ++ '.' :: rest.takeWhile digit ++ rest.dropWhile digit = text := by
    rw [List.append_assoc, List.cons_append, List.takeWhile_append_dropWhile, ← behind, List.takeWhile_append_dropWhile]
  have digits := List.forall_mem_append.2 ⟨List.all_eq_true.1 (List.all_takeWhile (p := digit) (l := text)),
    List.all_eq_true.1 (List.all_takeWhile (p := digit) (l := rest))⟩
  refine ⟨⟨_, spelled⟩, .pointed ⟨nonempty, digits⟩, fun other inside mantissa => ?_⟩
  rw [List.length_append, List.length_cons]
  rcases mantissa.front inside point with ⟨-, shorter⟩ | ⟨_, fraction, split, rfl, shorter, -⟩
  · have := shorter.length_le
    omega
  · cases behind.symm.trans split
    rw [List.length_append, List.length_cons]
    have := shorter.length_le
    omega

theorem isLongest_whole (pointless : ∀ rest, text.dropWhile digit ≠ '.' :: rest)
    (nonempty : text.takeWhile digit ≠ []) :
    IsLongest (IsMantissa digit) text (text.takeWhile digit) := by
  refine ⟨List.takeWhile_prefix digit, .whole ⟨nonempty, List.all_eq_true.1 List.all_takeWhile⟩,
    fun other inside mantissa => ?_⟩
  rcases mantissa.front inside point with ⟨-, shorter⟩ | ⟨rest, -, split, -⟩
  · exact shorter.length_le
  · exact absurd split (pointless rest)

theorem finds_no_mantissa (whole : text.takeWhile digit = [])
    (fraction : ∀ rest, text.dropWhile digit = '.' :: rest → rest.takeWhile digit = []) :
    Finds (IsMantissa digit) text none := by
  intro m inside mantissa
  rcases mantissa.front inside point with ⟨nonempty, digits⟩ | ⟨rest, digits, split, -, inside, nonempty⟩
  · rw [whole, List.prefix_nil] at digits
    exact nonempty digits
  · rw [fraction rest split, List.prefix_nil] at inside
    exact nonempty (List.append_eq_nil_iff.2 ⟨whole, inside⟩)

end Mantissas

theorem mantissaPrefix_cases (text : List Char) :
    (∃ rest, text.dropWhile isDecimalDigit = '.' :: rest ∧
      text.takeWhile isDecimalDigit ++ rest.takeWhile isDecimalDigit ≠ [] ∧ mantissaPrefix text =
        (text.takeWhile isDecimalDigit ++ '.' :: rest.takeWhile isDecimalDigit, rest.dropWhile isDecimalDigit)) ∨
    (text.takeWhile isDecimalDigit ≠ [] ∧ (∀ rest, text.dropWhile isDecimalDigit ≠ '.' :: rest) ∧
      mantissaPrefix text = (text.takeWhile isDecimalDigit, text.dropWhile isDecimalDigit)) ∨
    text.takeWhile isDecimalDigit = [] ∧
      (∀ rest, text.dropWhile isDecimalDigit = '.' :: rest → rest.takeWhile isDecimalDigit = []) ∧
      mantissaPrefix text = ([], text.dropWhile isDecimalDigit) := by
  unfold mantissaPrefix splitDigits
  dsimp only
  generalize text.takeWhile isDecimalDigit = whole
  generalize text.dropWhile isDecimalDigit = behind
  split
  · rename_i rest
    simp only [Bool.and_eq_true, List.isEmpty_iff]
    by_cases digitless : whole = [] ∧ rest.takeWhile isDecimalDigit = []
    · refine .inr (.inr ⟨digitless.1, fun other split => ?_, if_pos digitless⟩)
      cases split
      exact digitless.2
    · exact .inl ⟨rest, rfl, fun empty => digitless (List.append_eq_nil_iff.1 empty), if_neg digitless⟩
  · rename_i pointless
    by_cases digitless : whole = []
    · exact .inr (.inr ⟨digitless, fun rest split => absurd split (pointless rest), by rw [digitless]⟩)
    · exact .inr (.inl ⟨digitless, pointless, rfl⟩)

theorem finds_mantissa (text : List Char) : (mantissaPrefix text).1 ++ (mantissaPrefix text).2 = text ∧
    Finds (IsMantissa isDecimalDigit) text
      (if (mantissaPrefix text).1.isEmpty then none else some (mantissaPrefix text).1) := by
  have point : isDecimalDigit '.' = false := by decide
  have spelled : text.takeWhile isDecimalDigit ++ text.dropWhile isDecimalDigit = text :=
    List.takeWhile_append_dropWhile
  rcases mantissaPrefix_cases text with
    ⟨rest, behind, nonempty, parts⟩ | ⟨nonempty, pointless, parts⟩ | ⟨digitless, fraction, parts⟩
  · rw [parts, List.isEmpty_eq_false_iff.2 (by simp), if_neg Bool.false_ne_true, List.append_assoc, List.cons_append,
      List.takeWhile_append_dropWhile, ← behind]
    exact ⟨spelled, isLongest_pointed point behind nonempty⟩
  · rw [parts, List.isEmpty_eq_false_iff.2 nonempty, if_neg Bool.false_ne_true]
    exact ⟨spelled, isLongest_whole point pointless nonempty⟩
  · rw [parts, List.isEmpty_nil, if_pos rfl]
    rw [digitless] at spelled
    exact ⟨spelled, finds_no_mantissa point digitless fraction⟩

theorem IsMantissa.chars {m : List Char} (mantissa : IsMantissa digit m) : ∀ c ∈ m, digit c = true ∨ c = '.' := by
  cases mantissa with
  | whole digits => exact fun c member => .inl (digits.2 c member)
  | pointed digits =>
    obtain ⟨whole, fraction⟩ := List.forall_mem_append.1 digits.2
    exact List.forall_mem_append.2 ⟨fun c member => .inl (whole c member),
      List.forall_mem_cons.2 ⟨.inr rfl, fun c member => .inl (fraction c member)⟩⟩

theorem IsMantissa.ne_nil {m : List Char} (mantissa : IsMantissa digit m) : m ≠ [] := by
  cases mantissa with
  | whole digits => exact digits.1
  | pointed _ => exact List.append_ne_nil_of_right_ne_nil _ (List.cons_ne_nil _ _)

theorem IsMantissa.not_mem {m : List Char} (mantissa : IsMantissa digit m) {c : Char} (other : digit c = false)
    (pointless : c ≠ '.') : c ∉ m := by
  intro member
  rcases mantissa.chars c member with figure | point
  · exact absurd (other.symm.trans figure) Bool.false_ne_true
  · exact pointless point

/-- The longest decimal literal is found. -/
theorem finds_decimal (text : List Char) : Finds (Joined (IsMantissa isDecimalDigit) (IsExponent isDecimalDigit)) text
    (if (mantissaPrefix text).1.isEmpty then none
      else some ((mantissaPrefix text).1 ++ exponentPrefix (mantissaPrefix text).2)) := by
  obtain ⟨split, found⟩ := finds_mantissa text
  by_cases none : (mantissaPrefix text).1.isEmpty = true
  · rw [if_pos none] at found ⊢
    rintro _ inside ⟨x, y, rfl, mantissa, -⟩
    exact found x ((List.prefix_append x y).trans inside) mantissa
  · rw [if_neg none] at found ⊢
    have behind : Finds (IsExponent isDecimalDigit) (mantissaPrefix text).2
        (some (exponentPrefix (mantissaPrefix text).2)) := isLongest_exponentPrefix _
    refine IsLongest.joined split found behind ?_
    rintro y exponent c head
    cases exponent with
    | absent => cases head
    | written marked _ =>
      cases head
      rcases marked with rfl | rfl <;> exact found.shape.not_mem (by decide) (by decide)

/-- The longest front that is a number without a sign: the name of infinity, or else a mantissa with an exponent. No
mantissa begins with the letter of that name. -/
theorem finds_unsigned (text : List Char) : Finds (IsUnsigned isDecimalDigit) text
    (if "Infinity".toList.isPrefixOf text then some "Infinity".toList
      else if (mantissaPrefix text).1.isEmpty then none
      else some ((mantissaPrefix text).1 ++ exponentPrefix (mantissaPrefix text).2)) := by
  by_cases named : "Infinity".toList.isPrefixOf text = true
  · rw [if_pos named]
    rw [List.isPrefixOf_iff_prefix] at named
    refine ⟨named, .inl rfl, ?_⟩
    rintro _ inside (rfl | ⟨x, y, rfl, mantissa, -⟩)
    · exact le_rfl
    · obtain ⟨c, rest, rfl⟩ := List.exists_cons_of_ne_nil mantissa.ne_nil
      obtain ⟨behind, rfl⟩ := named
      obtain ⟨rfl, -⟩ := List.cons_prefix_cons.1 inside
      exact absurd List.mem_cons_self (mantissa.not_mem (by decide) (by decide))
  · rw [if_neg named]
    rw [List.isPrefixOf_iff_prefix] at named
    have decimal := finds_decimal text
    split at decimal <;> rename_i empty
    · rw [if_pos empty]
      rintro _ inside (rfl | form)
      · exact named inside
      · exact decimal _ inside form
    · rw [if_neg empty]
      refine ⟨decimal.front, .inr decimal.shape, ?_⟩
      rintro _ inside (rfl | form)
      · exact absurd inside named
      · exact decimal.longest _ inside form

theorem IsUnsigned.head (unsigned : IsUnsigned isDecimalDigit text) : ∀ c ∈ text.head?, c ≠ '+' ∧ c ≠ '-' := by
  rcases unsigned with rfl | ⟨x, y, rfl, mantissa, -⟩
  · rintro c head
    cases head
    decide
  · obtain ⟨c, rest, rfl⟩ := List.exists_cons_of_ne_nil mantissa.ne_nil
    rintro d head
    cases head
    constructor <;> rintro rfl <;> exact mantissa.not_mem (by decide) (by decide) List.mem_cons_self

theorem decimalPrefix?_eq (text : List Char) : decimalPrefix? text =
    (if "Infinity".toList.isPrefixOf (splitSign text).2 then some "Infinity".toList
      else if (mantissaPrefix (splitSign text).2).1.isEmpty then none
      else some ((mantissaPrefix (splitSign text).2).1 ++ exponentPrefix (mantissaPrefix (splitSign text).2).2)).map
        ((splitSign text).1 ++ ·) := by
  have parts : decimalPrefix? text =
      if "Infinity".toList.isPrefixOf (splitSign text).2 then some ((splitSign text).1 ++ "Infinity".toList)
      else if (mantissaPrefix (splitSign text).2).1.isEmpty then none
      else some ((splitSign text).1 ++ (mantissaPrefix (splitSign text).2).1 ++
        exponentPrefix (mantissaPrefix (splitSign text).2).2) := rfl
  rw [parts]
  split_ifs
  · rfl
  · rfl
  · rw [List.append_assoc]
    rfl

/-- The longest number at the front of a text is found, with digits of any script. -/
theorem finds_decimalPrefix? (text : List Char) : Finds (HasNumberForm isDecimalDigit) text (decimalPrefix? text) := by
  obtain ⟨split, sign, marks⟩ := isLongest_splitSign text
  rw [decimalPrefix?_eq]
  refine sign.joined split (finds_unsigned (splitSign text).2) fun y unsigned c head member => ?_
  have other := unsigned.head c head
  rcases marks c member with rfl | rfl
  · exact other.1 rfl
  · exact other.2 rfl

example : decimalPrefix? "+.5e-x".toList = some "+.5".toList := by decide

end Forms

end Reckoner.Number
