import Reckoner.Proofs.Readers

namespace Reckoner

namespace Number

open Text Text.Reader Token

/-- The digits of an exponent behind its sign. -/
def exponentSize (negative : Bool) : Reader Int :=
  (fun figures => if negative then -(ofExponentDigits figures : Int) else ofExponentDigits figures) <$>
    takeWhile1 Char.isDigit

/-- A mark, a sign if there is one, and digits. -/
def exponent : Reader Int :=
  behind (fun c => c = 'e' ∨ c = 'E') fun _ =>
    behind (· = '+') (fun _ => exponentSize false) <|> behind (· = '-') (fun _ => exponentSize true) <|>
      exponentSize false

/-- Digits with a point among or behind them if there is one, or a point and digits. -/
def mantissa : Reader (List Char × List Char) :=
  (fun parts => (parts.1, parts.2.getD [])) <$>
      optionally (takeWhile1 Char.isDigit) (behind (· = '.') fun _ => takeWhile Char.isDigit) <|>
    behind (· = '.') fun _ => ([], ·) <$> takeWhile1 Char.isDigit

theorem exponentSize_eq (negative : Bool) (text : List Char) : exponentSize negative text =
    if (text.takeWhile Char.isDigit).isEmpty then none
    else some (if negative then -(ofExponentDigits (text.takeWhile Char.isDigit) : Int)
      else ofExponentDigits (text.takeWhile Char.isDigit), text.dropWhile Char.isDigit) := by
  change (takeWhile1 Char.isDigit text).bind (fun r => some (_, r.2)) = _
  unfold takeWhile1
  cases text.takeWhile Char.isDigit <;> rfl

/-- Whether the sign of an exponent is a minus, and what stands behind the sign. -/
def exponentSign (text : List Char) : Bool × List Char :=
  match text with
  | '+' :: rest => (false, rest)
  | '-' :: rest => (true, rest)
  | _ => (false, text)

theorem readExponent?_eq (text : List Char) : readExponent? text = exponent text := by
  have noSize {c : Char} (other : c.isDigit = false) (negative : Bool) (rest : List Char) :
      exponentSize negative (c :: rest) = none := by
    rw [exponentSize_eq, List.takeWhile_cons, other]
    rfl
  have signed (text : List Char) :
      (behind (· = '+') (fun _ => exponentSize false) <|> behind (· = '-') (fun _ => exponentSize true) <|>
        exponentSize false : Reader Int) text = exponentSize (exponentSign text).1 (exponentSign text).2 := by
    change (behind _ _ text <|> (behind _ _ text <|> exponentSize false text)) = _
    rcases text with _ | ⟨c, rest⟩
    · rfl
    · by_cases plus : c = '+'
      · subst plus
        simp [exponentSign, behind, noSize (c := '+') rfl]
      · by_cases minus : c = '-'
        · subst minus
          simp [exponentSign, behind, noSize (c := '-') rfl]
        · simp [exponentSign, behind, plus, minus]
  cases text with
  | nil => rfl
  | cons c text =>
    unfold readExponent? exponent
    rw [behind]
    simp only [decide_eq_true_eq]
    split
    · rw [signed, exponentSize_eq]
      rfl
    · rfl

/-- The digits behind the point, if one belongs to the number, and what follows. -/
def fraction (whole text : List Char) : List Char × List Char :=
  match text with
  | '.' :: rest =>
    if whole.isEmpty && (rest.takeWhile Char.isDigit).isEmpty then ([], '.' :: rest)
    else (rest.takeWhile Char.isDigit, rest.dropWhile Char.isDigit)
  | rest => ([], rest)

theorem mantissa_eq (text : List Char) : mantissa text =
    let whole := text.takeWhile Char.isDigit
    let parts := fraction whole (text.dropWhile Char.isDigit)
    if whole.isEmpty && parts.1.isEmpty then none else some ((whole, parts.1), parts.2) := by
  rw [mantissa, or_apply, map_apply, optionally, takeWhile1]
  cases run : text.takeWhile Char.isDigit with
  | nil =>
    have after : text.dropWhile Char.isDigit = text := by
      have whole := List.takeWhile_append_dropWhile (p := Char.isDigit) (l := text)
      rwa [run, List.nil_append] at whole
    rw [after]
    rcases text with _ | ⟨c, text⟩
    · rfl
    · by_cases point : c = '.'
      · subst point
        cases more : text.takeWhile Char.isDigit <;> simp [fraction, behind, map_apply, takeWhile1, more]
      · simp [fraction, behind, point]
  | cons c more =>
    rcases text.dropWhile Char.isDigit with _ | ⟨d, after⟩
    · rfl
    · by_cases point : d = '.'
      · subst point
        simp [fraction, behind, takeWhile]
      · simp [fraction, behind, point]

/-- A literal of digits and the exponent behind them, which is zero if there is none. -/
def literalWith? (whole fraction rest : List Char) : Option (Literal × List Char) :=
  match readExponent? rest with
  | some (exponent, rest) => some (⟨whole, fraction, exponent⟩, rest)
  | none => some (⟨whole, fraction, 0⟩, rest)

theorem readLiteral?_eq_literalWith? (text : List Char) : readLiteral? text =
    let whole := text.takeWhile Char.isDigit
    let parts := fraction whole (text.dropWhile Char.isDigit)
    if whole.isEmpty && parts.1.isEmpty then none else literalWith? whole parts.1 parts.2 := rfl

theorem readLiteral?_eq (text : List Char) : readLiteral? text =
    ((fun parts => Literal.mk parts.1.1 parts.1.2 (parts.2.getD 0)) <$> optionally mantissa exponent) text := by
  rw [readLiteral?_eq_literalWith?, map_apply, optionally, mantissa_eq]
  dsimp only
  rw [literalWith?, readExponent?_eq]
  split
  · rfl
  · dsimp only
    cases exponent _ <;> rfl

end Number

end Reckoner
