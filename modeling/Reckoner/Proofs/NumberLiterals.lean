import Reckoner.Proofs.NumberGrammar

namespace Reckoner.Number

open Text

variable {text rest : List Char} {s : String}

theorem radixMark?_eq_some {radix : ℕ} :
    radixMark? text = some (radix, rest) ↔ ∃ mark, (mark, radix) ∈ radixMarks ∧ text = mark ++ rest := by
  constructor
  · intro marked
    unfold radixMark? at marked
    split at marked
    all_goals cases marked
    all_goals exact ⟨[_, _], by decide, rfl⟩
  · rintro ⟨mark, member, rfl⟩
    simp only [radixMarks, List.mem_cons, Prod.mk.injEq, List.not_mem_nil, or_false] at member
    rcases member with ⟨rfl, rfl⟩ | ⟨rfl, rfl⟩ | ⟨rfl, rfl⟩ | ⟨rfl, rfl⟩ | ⟨rfl, rfl⟩ | ⟨rfl, rfl⟩ <;> rfl

theorem radix_le {mark : List Char} {radix : ℕ} (member : (mark, radix) ∈ radixMarks) : radix ≤ 36 := by
  have all : ∀ pair ∈ radixMarks, pair.2 ≤ 36 := by decide
  exact all _ member

/-- The texts that name an infinity. -/
def infinityNames : List (List Char) := ["Infinity".toList, "+Infinity".toList, "-Infinity".toList]

/-- The number of the digits behind the mark of a radix. -/
def ofRadixDigits (radix : ℕ) (digits : List Char) : Float :=
  match readNatural? radix digits with
  | some n => if n < twoTo 64 then Float.ofNat n else notANumber
  | none => notANumber

theorem ofText_eq (trimmed : trim s.toList = text) (nonempty : text ≠ []) (unnamed : text ∉ infinityNames) :
    ofText s = match radixMark? text with
      | some (radix, digits) => ofRadixDigits radix digits
      | none => (readDecimal? text).getD notANumber := by
  simp only [infinityNames, List.mem_cons, List.not_mem_nil, or_false, not_or] at unnamed
  obtain ⟨unsigned, positive, negative⟩ := unnamed
  unfold ofText
  rw [trimmed]
  split
  · exact absurd rfl nonempty
  · rw [if_neg (not_or.2 ⟨unsigned, positive⟩), if_neg negative]
    rfl

/-- What is marked for a radix names no infinity. -/
theorem unnamed_of_mark {radix : ℕ} (marked : radixMark? text = some (radix, rest)) : text ∉ infinityNames := by
  have all : ∀ name ∈ infinityNames, radixMark? name = none := by decide
  intro member
  rw [all text member] at marked
  cases marked

theorem unnamed_of_decimal {x : Float} (read : readDecimal? text = some x) : text ∉ infinityNames := by
  have all : ∀ name ∈ infinityNames, (readDecimal? name).isNone = true := by decide
  intro member
  have unread := all text member
  rw [read] at unread
  cases unread

theorem ofText_of_mark {mark digits : List Char} {radix : ℕ} (member : (mark, radix) ∈ radixMarks)
    (trimmed : trim s.toList = mark ++ digits) : ofText s = ofRadixDigits radix digits := by
  have marked : radixMark? (mark ++ digits) = some (radix, digits) := radixMark?_eq_some.2 ⟨mark, member, rfl⟩
  have nonempty : mark ++ digits ≠ [] := by
    intro empty
    rw [empty] at marked
    cases marked
  rw [ofText_eq trimmed nonempty (unnamed_of_mark marked), marked]

/-- What is read as a decimal has no mark of another radix. -/
theorem unmarked_of_decimal {x : Float} (read : readDecimal? text = some x) : radixMark? text = none := by
  obtain ⟨l, taken, -⟩ := readDecimal?_eq_some.1 read
  unfold exponentSign at taken
  split at taken
  · rfl
  · rfl
  · exact radixMark?_eq_none taken

theorem ofText_of_decimal {x : Float} (trimmed : trim s.toList = text) (read : readDecimal? text = some x) :
    ofText s = x := by
  have nonempty : text ≠ [] := by
    rintro rfl
    cases read
  rw [ofText_eq trimmed nonempty (unnamed_of_decimal read), unmarked_of_decimal read, read]
  rfl

/-- The texts that are read as numbers in accordance with their grammar: there is no plus sign behind the mark of a
radix, the digits behind it denote a number below `2 ^ 64`, and the exponent is not too long for the digits before
it. -/
structure IsRegular (text : List Char) : Prop where
  unsigned {mark digits : List Char} {radix n : ℕ} : (mark, radix) ∈ radixMarks → IsNatural radix digits n →
    text ≠ mark ++ '+' :: digits
  small {mark digits : List Char} {radix n : ℕ} : (mark, radix) ∈ radixMarks → IsNatural radix digits n →
    text = mark ++ digits → n < 2 ^ 64
  short {sign mantissa ending : List Char} {negative : Bool} {n places : ℕ} {e : ℤ} : OptionalSign sign negative →
    Mantissa mantissa n places → ExponentPart ending e → text = sign ++ (mantissa ++ ending) →
    e.natAbs < 10 * 2 ^ 16 ∨ mantissa.length ≤ 65000

theorem exact_notANumber : exact notANumber = .nan := by decide +kernel

/-- A number text holds what it denotes. -/
theorem NumberText.isHeldBy {denoted : Denoted} (number : NumberText text denoted) (regular : IsRegular text)
    (trimmed : trim s.toList = text) : denoted.IsHeldBy (ofText s) := by
  cases number with
  | empty =>
    have zero : ofText s = 0.0 := by rw [ofText, trimmed]
    exact ⟨0.0, isNearest_zero le_rfl (by positivity), zero⟩
  | infinite signed =>
    cases signed with
    | absent =>
      have named : ofText s = infinity := by rw [ofText, trimmed]; rfl
      exact (congrArg exact named).trans exact_infinity
    | plus =>
      have named : ofText s = infinity := by rw [ofText, trimmed]; rfl
      exact (congrArg exact named).trans exact_infinity
    | minus =>
      have named : ofText s = -infinity := by rw [ofText, trimmed]; rfl
      exact (congrArg exact named).trans (by rw [exact_neg, exact_infinity]; rfl)
  | @radix mark digits radix n member natural =>
    have small := regular.small member natural rfl
    have read := (readNatural?_eq_some (radix_le member)).2 (.inl natural)
    have number : ofText s = Float.ofNat n := by
      rw [ofText_of_mark member trimmed, ofRadixDigits, read]
      exact if_pos small
    exact ⟨_, isNearest_ofNat n, number⟩
  | decimal signed digits part =>
    obtain ⟨x, read, nearest⟩ := readDecimal?_of_parts signed digits part
    exact ⟨x, nearest (regular.short signed digits part rfl), ofText_of_decimal trimmed read⟩

/-- A text that is no number is read as no number. -/
theorem ofText_eq_notANumber (regular : IsRegular text) (trimmed : trim s.toList = text)
    (other : ∀ denoted, ¬NumberText text denoted) : ofText s = notANumber := by
  have nonempty : text ≠ [] := by
    rintro rfl
    exact other _ .empty
  have unnamed : text ∉ infinityNames := by
    simp only [infinityNames, List.mem_cons, List.not_mem_nil, or_false]
    rintro (rfl | rfl | rfl)
    · exact other _ (.infinite .absent)
    · exact other _ (.infinite .plus)
    · exact other _ (.infinite .minus)
  rw [ofText_eq trimmed nonempty unnamed]
  split
  · rename_i radix digits marked
    obtain ⟨mark, member, rfl⟩ := radixMark?_eq_some.1 marked
    unfold ofRadixDigits
    split
    · rename_i n read
      rcases (readNatural?_eq_some (radix_le member)).1 read with natural | ⟨figures, rfl, natural⟩
      · exact absurd (.radix member natural) (other _)
      · exact absurd rfl (regular.unsigned member natural)
    · rfl
  · cases read : readDecimal? text with
    | none => rfl
    | some x =>
      obtain ⟨sign, negative, mantissa, n, places, ending, e, signed, digits, part, rfl⟩ := parts_of_readDecimal? read
      exact absurd (.decimal signed digits part) (other _)

/-- Text is read as the number that it denotes, and as no number if it denotes none. -/
theorem ofText_denotes {s : String} (regular : IsRegular (trim s.toList)) :
    (∀ denoted, NumberText (trim s.toList) denoted → denoted.IsHeldBy (ofText s)) ∧
      ((∀ denoted, ¬NumberText (trim s.toList) denoted) → ofText s = notANumber) :=
  ⟨fun _ number => number.isHeldBy regular rfl, ofText_eq_notANumber regular rfl⟩

/-- Without the mark of a radix a text that is not too long is regular. -/
theorem isRegular_of_unmarked (unmarked : radixMark? text = none) (size : text.length ≤ 65000) : IsRegular text := by
  have marked {mark digits : List Char} {radix : ℕ} (member : (mark, radix) ∈ radixMarks) : text ≠ mark ++ digits := by
    intro spelled
    have marked := radixMark?_eq_some.2 ⟨mark, member, spelled⟩
    rw [unmarked] at marked
    cases marked
  refine ⟨fun member _ => marked member, fun member _ spelled => absurd spelled (marked member), ?_⟩
  rintro sign mantissa ending negative n places e - - - rfl
  rw [List.length_append, List.length_append] at size
  exact .inr (by omega)

/-- Blanks, a sign, a point and an exponent. -/
theorem ofText_denotes_signed : IsRegular (trim " -1.5e-7\n".toList) ∧
    ∃ denoted, NumberText (trim " -1.5e-7\n".toList) denoted ∧ denoted.IsHeldBy (ofText " -1.5e-7\n") := by
  have trimmed : trim " -1.5e-7\n".toList = ['-'] ++ (['1', '.', '5'] ++ ['e', '-', '7']) := by decide
  have regular : IsRegular (trim " -1.5e-7\n".toList) := trimmed ▸ isRegular_of_unmarked rfl (by decide)
  have digits : Mantissa ['1', '.', '5'] 15 1 :=
    @Mantissa.pointed ['1'] ['5'] 15 (isNatural_ten.2 ⟨nofun, List.all_eq_true.1 rfl, by decide +kernel⟩)
  have ending : ExponentPart ['e', '-', '7'] (-7) :=
    .written (.inl rfl) .minus (isNatural_ten.2 ⟨nofun, List.all_eq_true.1 rfl, by decide +kernel⟩)
  have number := NumberText.decimal .minus digits ending
  rw [← trimmed] at number
  exact ⟨regular, _, number, (ofText_denotes regular).1 _ number⟩

/-- What has a plus sign behind the mark of a radix is no number. -/
theorem not_numberText_of_plus {mark digits : List Char} {radix : ℕ} (member : (mark, radix) ∈ radixMarks)
    (denoted : Denoted) : ¬NumberText (mark ++ '+' :: digits) denoted := by
  intro number
  have marked : radixMark? (mark ++ '+' :: digits) = some (radix, '+' :: digits) :=
    radixMark?_eq_some.2 ⟨mark, member, rfl⟩
  generalize mark ++ '+' :: digits = text at number marked
  cases number with
  | empty => cases marked
  | infinite signed =>
    refine unnamed_of_mark marked ?_
    cases signed <;> decide
  | radix member' natural =>
    cases marked.symm.trans (radixMark?_eq_some.2 ⟨_, member', rfl⟩)
    exact not_isNatural_plus natural
  | decimal signed figures part =>
    obtain ⟨x, read, -⟩ := readDecimal?_of_parts signed figures part
    cases marked.symm.trans (unmarked_of_decimal read)

/-- But it is read as one. -/
theorem ofText_plus : ¬∀ s : String, (∀ denoted, ¬NumberText (trim s.toList) denoted) → ofText s = notANumber := by
  intro every
  have trimmed : trim "0x+1F".toList = ['0', 'x'] ++ '+' :: ['1', 'F'] := by decide
  have member : (['0', 'x'], 16) ∈ radixMarks := by decide
  have isNaN := every "0x+1F" (trimmed ▸ not_numberText_of_plus member)
  have content := congrArg exact isNaN
  rw [exact_notANumber] at content
  exact absurd content (by decide +kernel)

end Reckoner.Number
