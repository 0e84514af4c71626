import Reckoner.Proofs.NumberReaders

namespace Reckoner

namespace Number

open Text Text.Reader Token

/-- An exponent is its digits, whatever its sign is. -/
theorem exponentSize_local (negative : Bool) : Local (exponentSize negative) :=
  (Local.takeWhile1 isPlain_of_isDigit).map _

/-- The exponent of a number: a mark, perhaps a sign, and digits. Each of the two signs is an alternative of its own,
and so is the lack of one. -/
theorem exponent_local : Local exponent :=
  .behind (isPlain_of_class _ (by decide)) fun _ _ =>
    .or (.behind (isPlain_of_class _ (by decide)) fun _ _ => exponentSize_local false)
      (.or (.behind (isPlain_of_class _ (by decide)) fun _ _ => exponentSize_local true) (exponentSize_local false))

theorem mantissa_local : Local mantissa :=
  have digits := Local.takeWhile1 isPlain_of_isDigit
  .or (.map (.optionally digits (.behind (isPlain_of_class _ (by decide)) fun _ _ => .takeWhile isPlain_of_isDigit)) _)
    (.behind (isPlain_of_class _ (by decide)) fun _ _ => digits.map _)

end Number

namespace Token

open Text Text.Reader

variable {text rest : List Char} {token : Token}

/-- The readers of tokens other than layout, comments and strings. -/
def scanPlain : Reader Token := scanNumber <|> scanWord <|> scanOperator <|> scanDelimiter

theorem scanNumber_local : Local scanNumber := by
  have same : scanNumber = (fun parts => .number (Number.Literal.mk parts.1.1 parts.1.2 (parts.2.getD 0)).value) <$>
      optionally Number.mantissa Number.exponent := by
    funext text
    rw [scanNumber, Number.readLiteral?_eq, map_apply, map_apply, Option.map_map]
    rfl
  exact same ▸ (Local.optionally Number.mantissa_local Number.exponent_local).map _

/-- The keyword or identifier that a word is. -/
def ofWord (word : String) : Token :=
  match Keyword.ofWord? word with
  | some reserved => .keyword reserved
  | none => .identifier word

theorem scanWord_eq : scanWord = behind isWordStart fun c =>
    (fun more => ofWord (String.ofList (c :: more))) <$> takeWhile isWordPart := by
  funext text
  cases text with
  | nil => rfl
  | cons c text =>
    by_cases start : isWordStart c = true
    · rw [behind, if_pos start, map_apply, takeWhile, Option.map_some, ofWord]
      simp only [scanWord, satisfy, takeWhile, bind, StateT.bind, start, if_true, Option.bind_some]
      cases Keyword.ofWord? (String.ofList (c :: text.takeWhile isWordPart)) <;> rfl
    · simp [scanWord, satisfy, behind, bind, StateT.bind, start]

/-- A word goes on as long as its characters do, and none of these is a blank, a line end or a quote. -/
theorem scanWord_local : Local scanWord :=
  scanWord_eq ▸ .behind isPlain_of_isWordStart fun _ _ => (Local.takeWhile isPlain_of_isWordPart).map _

theorem scanDelimiter_local : Local scanDelimiter := by
  have same : scanDelimiter = behind (fun c => (Delimiter.all.find? (·.char == c)).isSome) fun c text =>
      ((Delimiter.all.find? (·.char == c)).map .delimiter).map (·, text) := by
    funext text
    cases text with
    | nil => rfl
    | cons c text =>
      simp only [scanDelimiter, behind]
      cases Delimiter.all.find? (·.char == c) <;> rfl
  exact same ▸ .behind (isPlain_of_class _ (by decide)) fun c _ => .constant _

theorem scanOperator_local : Local scanOperator := by
  have same : scanOperator = fun text => Operator.longestFirst.findSome? fun op =>
      ((fun _ => Token.operator op) <$> chars op.symbol.toList : Reader Token) text := by
    funext text
    simp only [map_apply]
    rfl
  rw [same]
  have plain : Operator.longestFirst.all (fun op => op.symbol.toList.all isPlain) = true := by decide
  exact .findSome? _ fun op member => .map (.chars (List.all_eq_true.mp (List.all_eq_true.mp plain op member))) _

/-- What the readers of plain tokens take is left the same if the text behind a blank or a line end changes. Comments
and strings are not among these tokens, since they go on behind blanks. -/
theorem scanPlain_local : Local scanPlain :=
  .or scanNumber_local (.or scanWord_local (.or scanOperator_local scanDelimiter_local))

end Token

end Reckoner
