import Reckoner.Library.Call
import Reckoner.Proofs.NumberForms
import Reckoner.Proofs.NumberLiterals

namespace Reckoner.Number

open Text

variable {digit wide : Char → Bool} {text d m ending : List Char} {c : Char} {s : String}

section Ascii

theorem isDigits_iff : IsDigits Char.isDigit d ↔ ∃ n, IsNatural 10 d n := by
  simp only [isNatural_ten, IsDigits]
  exact ⟨fun digits => ⟨_, digits.1, digits.2, rfl⟩, fun ⟨_, nonempty, digits, _⟩ => ⟨nonempty, digits⟩⟩

theorem isMantissa_iff : IsMantissa Char.isDigit m ↔ ∃ n places, Mantissa m n places := by
  constructor
  · rintro (digits | digits)
    · obtain ⟨n, natural⟩ := isDigits_iff.1 digits
      exact ⟨n, 0, .whole natural⟩
    · obtain ⟨n, natural⟩ := isDigits_iff.1 digits
      exact ⟨n, _, .pointed natural⟩
  · rintro ⟨n, places, natural | natural⟩
    · exact .whole (isDigits_iff.2 ⟨n, natural⟩)
    · exact .pointed (isDigits_iff.2 ⟨n, natural⟩)

theorem isExponent_iff : IsExponent Char.isDigit ending ↔ ∃ e, ExponentPart ending e := by
  constructor
  · rintro (_ | ⟨marked, sign, digits, rfl, ⟨negative, signed⟩, figures⟩)
    · exact ⟨0, .absent⟩
    · obtain ⟨n, natural⟩ := isDigits_iff.1 figures
      exact ⟨_, .written marked signed natural⟩
  · rintro ⟨e, _ | ⟨marked, signed, natural⟩⟩
    · exact .absent
    · exact .written marked ⟨_, _, rfl, ⟨_, signed⟩, isDigits_iff.2 ⟨_, natural⟩⟩

/-- With ASCII digits the form of a number is that of a number text. -/
theorem HasNumberForm.exists_numberText (form : HasNumberForm Char.isDigit d) : ∃ denoted, NumberText d denoted := by
  obtain ⟨sign, body, rfl, ⟨negative, signed⟩, rfl | ⟨mantissa, ending, rfl, digits, exponent⟩⟩ := form
  · exact ⟨_, .infinite signed⟩
  · obtain ⟨n, places, digits⟩ := isMantissa_iff.1 digits
    obtain ⟨e, part⟩ := isExponent_iff.1 exponent
    exact ⟨_, .decimal signed digits part⟩

theorem hasNumberForm_of_readDecimal? {x : Float} (read : readDecimal? d = some x) : HasNumberForm Char.isDigit d := by
  obtain ⟨sign, negative, mantissa, n, places, ending, e, signed, digits, part, rfl⟩ := parts_of_readDecimal? read
  exact ⟨sign, _, rfl, ⟨negative, signed⟩,
    .inr ⟨mantissa, ending, rfl, isMantissa_iff.2 ⟨n, places, digits⟩, isExponent_iff.2 ⟨e, part⟩⟩⟩

theorem hasNumberForm_of_named (named : d ∈ infinityNames) : HasNumberForm digit d := by
  simp only [infinityNames, List.mem_cons, List.not_mem_nil, or_false] at named
  rcases named with rfl | rfl | rfl
  · exact ⟨[], _, rfl, ⟨_, .absent⟩, .inl rfl⟩
  · exact ⟨['+'], _, rfl, ⟨_, .plus⟩, .inl rfl⟩
  · exact ⟨['-'], _, rfl, ⟨_, .minus⟩, .inl rfl⟩

end Ascii

section Characters

theorem IsDigits.mono (narrow : ∀ c, digit c = true → wide c = true) (digits : IsDigits digit d) : IsDigits wide d :=
  ⟨digits.1, fun c member => narrow c (digits.2 c member)⟩

/-- A number with some digits is one with more digits. -/
theorem HasNumberForm.mono (narrow : ∀ c, digit c = true → wide c = true) (form : HasNumberForm digit d) :
    HasNumberForm wide d := by
  obtain ⟨sign, body, rfl, signed, rfl | ⟨mantissa, ending, rfl, digits, exponent⟩⟩ := form
  · exact ⟨sign, _, rfl, signed, .inl rfl⟩
  · refine ⟨sign, _, rfl, signed, .inr ⟨mantissa, ending, rfl, ?_, ?_⟩⟩
    · cases digits with
      | whole digits => exact .whole (digits.mono narrow)
      | pointed digits => exact .pointed (digits.mono narrow)
    · cases exponent with
      | absent => exact .absent
      | written marked behind =>
        obtain ⟨sign, digits, rfl, signed, figures⟩ := behind
        exact .written marked ⟨sign, digits, rfl, signed, figures.mono narrow⟩

/-- The characters of numbers other than digits. -/
def formMarks : List Char := "+-.eEInfinity".toList

theorem IsSign.marks (signed : IsSign d) : ∀ c ∈ d, formMarks.contains c = true := by
  obtain ⟨negative, signed⟩ := signed
  cases signed <;> exact List.all_eq_true.1 rfl

theorem HasNumberForm.chars (form : HasNumberForm digit d) : ∀ c ∈ d, digit c = true ∨ formMarks.contains c = true := by
  have digits {figures : List Char} (all : ∀ c ∈ figures, digit c = true) :
      ∀ c ∈ figures, digit c = true ∨ formMarks.contains c = true := fun c member => .inl (all c member)
  have marks {text : List Char} (all : ∀ c ∈ text, formMarks.contains c = true) :
      ∀ c ∈ text, digit c = true ∨ formMarks.contains c = true := fun c member => .inr (all c member)
  obtain ⟨sign, body, rfl, signed, unsigned⟩ := form
  refine List.forall_mem_append.2 ⟨marks signed.marks, ?_⟩
  rcases unsigned with rfl | ⟨mantissa, ending, rfl, figures, exponent⟩
  · exact marks (List.all_eq_true.1 rfl)
  refine List.forall_mem_append.2 ⟨?_, ?_⟩
  · intro c member
    rcases figures.chars c member with figure | rfl
    · exact .inl figure
    · exact .inr rfl
  · cases exponent with
    | absent => exact nofun
    | written marked behind =>
      obtain ⟨sign, figures, rfl, signed, all⟩ := behind
      refine List.forall_mem_cons.2 ⟨.inr (by rcases marked with rfl | rfl <;> rfl), ?_⟩
      exact List.forall_mem_append.2 ⟨marks signed.marks, digits all.2⟩

/-- No digit of any script is a blank. -/
theorem isBlank_of_isDecimalDigit (figure : isDecimalDigit c = true) : isBlank c = false := by
  have apart : (blankRanges.all fun blank => decimalDigitRanges.all fun digits =>
      decide (digits.2 < blank.1) || decide (blank.2 < digits.1)) = true := by decide +kernel
  unfold isDecimalDigit at figure
  split at figure
  · exact isBlank_of_isDigit figure
  · rename_i foreign
    rw [isBlank, if_neg foreign, Bool.eq_false_iff]
    intro blank
    obtain ⟨digits, member, inside⟩ := Array.any_eq_true'.1 figure
    obtain ⟨blanks, member', inside'⟩ := Array.any_eq_true'.1 blank
    have disjoint := Array.all_eq_true'.1 (Array.all_eq_true'.1 apart blanks member') digits member
    simp only [Bool.and_eq_true, Bool.or_eq_true, decide_eq_true_eq] at inside inside' disjoint
    omega

theorem HasNumberForm.solid (form : HasNumberForm isDecimalDigit d) : ∀ c ∈ d, isBlank c = false := by
  have marks : formMarks.all (fun c => !isBlank c) = true := by decide
  intro c member
  rcases form.chars c member with figure | mark
  · exact isBlank_of_isDecimalDigit figure
  · simpa using List.all_eq_true.1 marks c (List.contains_iff_mem.1 mark)

/-- No number begins with the mark of another radix. -/
theorem HasNumberForm.unmarked (form : HasNumberForm isDecimalDigit d) : radixMark? d = none := by
  have letters : radixMarks.all (fun mark => mark.1.any fun c =>
      !isDecimalDigit c && !formMarks.contains c) = true := by decide
  cases marked : radixMark? d with
  | none => rfl
  | some found =>
    obtain ⟨mark, member, rfl⟩ := radixMark?_eq_some.1 marked
    obtain ⟨c, inside, other⟩ := List.any_eq_true.1 (List.all_eq_true.1 letters _ member)
    rw [Bool.and_eq_true, Bool.not_eq_true', Bool.not_eq_true'] at other
    rcases form.chars c (List.mem_append_left _ inside) with figure | mark
    · exact absurd (other.1.symm.trans figure) Bool.false_ne_true
    · exact absurd (other.2.symm.trans mark) Bool.false_ne_true

end Characters

section Reading

theorem HasNumberForm.ne_nil (form : HasNumberForm digit d) : d ≠ [] := by
  obtain ⟨sign, body, rfl, -, unsigned⟩ := form
  refine List.append_ne_nil_of_right_ne_nil sign ?_
  rcases unsigned with rfl | ⟨mantissa, ending, rfl, digits, -⟩
  · exact List.cons_ne_nil _ _
  · exact List.append_ne_nil_of_left_ne_nil digits.ne_nil _

theorem HasNumberForm.trim (form : HasNumberForm isDecimalDigit d) : trim (String.ofList d).toList = d := by
  rw [String.toList_ofList, trim_eq_self form.solid]

/-- With digits of another script a text is no number. -/
theorem HasNumberForm.isNaN_ofText (form : HasNumberForm isDecimalDigit d) (foreign : ¬HasNumberForm Char.isDigit d) :
    (ofText (String.ofList d)).isNaN = true := by
  have unnamed : d ∉ infinityNames := fun named => foreign (hasNumberForm_of_named named)
  have read : readDecimal? d = none :=
    Option.eq_none_iff_forall_ne_some.2 fun x read => foreign (hasNumberForm_of_readDecimal? read)
  rw [ofText_eq form.trim form.ne_nil unnamed, form.unmarked, read]
  exact isNaN_notANumber

theorem readPrefix_of_isLongest (longest : IsLongest (HasNumberForm isDecimalDigit) (trimStart s.toList) d) :
    readPrefix s = ofText (String.ofList d) := by
  have found := finds_decimalPrefix? (trimStart s.toList)
  unfold readPrefix
  split <;> rename_i read <;> rw [read] at found
  · rw [IsLongest.unique found longest]
  · exact absurd longest.shape (found d longest.front)

theorem isNaN_readPrefix (formless : ∀ d, d <+: trimStart s.toList → ¬HasNumberForm Char.isDigit d) :
    (readPrefix s).isNaN = true := by
  have found := finds_decimalPrefix? (trimStart s.toList)
  unfold readPrefix
  split <;> rename_i read <;> rw [read] at found
  · exact IsLongest.shape found |>.isNaN_ofText (formless _ (IsLongest.front found))
  · exact isNaN_notANumber

/-- The longest number with ASCII digits is read, unless digits of another script go on with it. -/
theorem readPrefix_ascii (longest : IsLongest (HasNumberForm Char.isDigit) (trimStart s.toList) d)
    (ends : ∀ other, other <+: trimStart s.toList → HasNumberForm isDecimalDigit other → other.length ≤ d.length) :
    readPrefix s = ofText (String.ofList d) :=
  readPrefix_of_isLongest ⟨longest.front, longest.shape.mono fun _ => Path.isDecimalDigit_of_isDigit, ends⟩

/-- A natural number of another radix than ten, behind its mark and perhaps a plus sign. -/
def IsMarked (text : List Char) : Prop := ∃ mark radix digits n, (mark, radix) ∈ radixMarks ∧ IsNatural radix digits n ∧
  (text = mark ++ digits ∨ text = mark ++ '+' :: digits)

/-- Numbers other than those with a mark have the form of numbers. -/
theorem hasNumberForm_of_ofText (number : (ofText s).isNaN = false) (nonempty : Text.trim s.toList ≠ [])
    (unmarked : ¬IsMarked (Text.trim s.toList)) : HasNumberForm Char.isDigit (Text.trim s.toList) := by
  by_cases named : Text.trim s.toList ∈ infinityNames
  · exact hasNumberForm_of_named named
  rw [ofText_eq rfl nonempty named] at number
  split at number
  · rename_i radix digits marked
    obtain ⟨mark, member, spelled⟩ := radixMark?_eq_some.1 marked
    unfold ofRadixDigits at number
    split at number
    · rename_i n read
      refine absurd ?_ unmarked
      rcases (readNatural?_eq_some (radix_le member)).1 read with natural | ⟨rest, rfl, natural⟩
      · exact ⟨mark, radix, digits, n, member, natural, .inl spelled⟩
      · exact ⟨mark, radix, rest, n, member, natural, .inr spelled⟩
    · rw [isNaN_notANumber] at number
      cases number
  · cases read : readDecimal? (Text.trim s.toList) with
    | none =>
      rw [read, Option.getD_none, isNaN_notANumber] at number
      cases number
    | some x => exact hasNumberForm_of_readDecimal? read

/-- Nothing but blanks is behind a text without the blanks at its ends. -/
theorem exists_trimStart (text : List Char) : ∃ blanks, trimStart text = Text.trim text ++ blanks ∧
    ∀ c ∈ blanks, isBlank c = true := by
  refine ⟨((trimStart text).reverse.takeWhile isBlank).reverse, ?_, fun c member => ?_⟩
  · rw [Text.trim, trimEnd, ← List.reverse_append, List.takeWhile_append_dropWhile, List.reverse_reverse]
  · exact List.all_eq_true.1 List.all_takeWhile c (List.mem_reverse.1 member)

/-- Where the whole text denotes a number, its longest front does. A longer one would take a blank from behind the text,
which no form of a number has. -/
theorem readPrefix_eq_ofText (number : (ofText s).isNaN = false) (nonempty : Text.trim s.toList ≠ [])
    (unmarked : ¬IsMarked (Text.trim s.toList)) : readPrefix s = ofText s := by
  have form : HasNumberForm isDecimalDigit (Text.trim s.toList) :=
    (hasNumberForm_of_ofText number nonempty unmarked).mono fun _ => Path.isDecimalDigit_of_isDigit
  obtain ⟨blanks, split, blank⟩ := exists_trimStart s.toList
  have longest : IsLongest (HasNumberForm isDecimalDigit) (trimStart s.toList) (Text.trim s.toList) := by
    rw [split]
    refine ⟨List.prefix_append .., form, fun other inside form' => not_lt.1 fun longer => ?_⟩
    obtain ⟨more, rfl⟩ := List.prefix_of_prefix_length_le (List.prefix_append ..) inside longer.le
    rw [List.prefix_append_right_inj] at inside
    cases more with
    | nil => simp at longer
    | cons c more =>
      have solid := form'.solid c (by simp)
      rw [blank c (inside.subset List.mem_cons_self)] at solid
      cases solid
  have same : ofText (String.ofList (Text.trim s.toList)) = ofText s := by
    unfold ofText
    rw [form.trim]
  rw [readPrefix_of_isLongest longest, same]

/-- What is denoted is not NaN. -/
theorem Denoted.IsHeldBy.isNaN {denoted : Denoted} {x : Float} (held : denoted.IsHeldBy x) : x.isNaN = false := by
  cases denoted with
  | infinite negative =>
    rw [Bool.eq_false_iff, ne_eq, ← place?_eq_none_iff, place?, (held : exact x = .infinite negative)]
    cases negative <;> exact Option.some_ne_none _
  | rational negative magnitude =>
    obtain ⟨y, nearest, rfl⟩ := held
    exact nearest.isMagnitude.isNaN_withSign negative

end Reading

end Reckoner.Number

namespace Reckoner.Builtin

open Number Text

/-- The longest number at the front of a text is read behind blanks, whatever follows it but digits of another script
that go on with it, and NaN if there is none. What is a number as a whole, without a mark of a radix, is read as that
number. -/
theorem parseFloat_reads (args : List Value) :
    ∃ x, call .parseFloat args = .ok (.number x) ∧
      (∀ d, IsLongest (HasNumberForm Char.isDigit) (trimStart (argument args 0).text.toList) d →
        (∀ other, other <+: trimStart (argument args 0).text.toList → HasNumberForm isDecimalDigit other →
          other.length ≤ d.length) →
        x = ofText (String.ofList d) ∧ (∃ denoted, NumberText d denoted) ∧
          (IsRegular d → ∀ denoted, NumberText d denoted → denoted.IsHeldBy x)) ∧
      ((∀ d, d <+: trimStart (argument args 0).text.toList → ¬HasNumberForm Char.isDigit d) → x.isNaN = true) ∧
      ((ofText (argument args 0).text).isNaN = false → trim (argument args 0).text.toList ≠ [] →
        ¬IsMarked (trim (argument args 0).text.toList) → x = ofText (argument args 0).text) := by
  refine ⟨readPrefix (argument args 0).text, rfl, fun d longest ends => ?_, isNaN_readPrefix, readPrefix_eq_ofText⟩
  have read := readPrefix_ascii longest ends
  have trimmed := (longest.shape.mono fun _ => Path.isDecimalDigit_of_isDigit).trim
  exact ⟨read, longest.shape.exists_numberText, fun regular denoted number =>
    read ▸ number.isHeldBy regular trimmed⟩

/-- Digits of another script take the number away. -/
theorem parseFloat_foreign : ¬∀ (args : List Value) (d : List Char),
    IsLongest (HasNumberForm Char.isDigit) (trimStart (argument args 0).text.toList) d →
      ∃ x, call .parseFloat args = .ok (.number x) ∧ ∃ denoted, NumberText d denoted ∧ denoted.IsHeldBy x := by
  intro every
  have digits : IsDigits Char.isDigit ['5'] := ⟨nofun, List.all_eq_true.1 rfl⟩
  have form : HasNumberForm Char.isDigit ['5'] :=
    ⟨[], _, rfl, ⟨_, .absent⟩, .inr ⟨_, [], rfl, .whole digits, .absent⟩⟩
  have longest : IsLongest (HasNumberForm Char.isDigit) (trimStart "5\u0663".toList) ['5'] := by
    have text : trimStart "5\u0663".toList = ['5', '\u0663'] := by decide
    rw [text]
    refine ⟨⟨['\u0663'], rfl⟩, form, fun other inside form' => not_lt.1 fun longer => ?_⟩
    obtain rfl := inside.eq_of_length_le longer
    rcases form'.chars '\u0663' (by simp) with digit | mark
    · exact absurd digit (by decide)
    · exact absurd mark (by decide)
  obtain ⟨x, called, denoted, -, held⟩ := every [.string "5\u0663"] ['5'] longest
  have number : readPrefix "5\u0663" = x := Value.number.inj (Except.ok.inj called)
  have nan : (readPrefix "5\u0663").isNaN = true := by decide +kernel
  rw [number, held.isNaN] at nan
  cases nan

end Reckoner.Builtin
