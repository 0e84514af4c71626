import Reckoner.Number.Reading
import Reckoner.Text.Blank

namespace Reckoner.Number

/-- The radix that the first two characters announce. -/
def radixMark? : List Char → Option (Nat × List Char)
  | '0' :: 'x' :: rest | '0' :: 'X' :: rest => some (16, rest)
  | '0' :: 'o' :: rest | '0' :: 'O' :: rest => some (8, rest)
  | '0' :: 'b' :: rest | '0' :: 'B' :: rest => some (2, rest)
  | _ => none

/-- The number that a whole text denotes, blanks around it aside: zero for no text, and NaN for one
that is no number. Digits of another radix than ten have to stay below `2 ^ 64`. -/
def ofText (s : String) : Float :=
  match Text.trim s.toList with
  | [] => 0.0
  | text =>
    if text = "Infinity".toList ∨ text = "+Infinity".toList then infinity
    else if text = "-Infinity".toList then -infinity
    else match radixMark? text with
      | some (radix, rest) =>
        match readNatural? radix rest with
        | some n => if n < twoTo 64 then Float.ofNat n else notANumber
        | none => notANumber
      | none => (readDecimal? text).getD notANumber

end Reckoner.Number
