import Reckoner.Library.Call

namespace Reckoner.Value

/-- The index that a property name spells: decimal digits without a zero in front, of a number
below `2 ^ 64`. -/
def indexOfKey? (key : String) : Option Nat :=
  match key.toList with
  | [] => none
  | ['0'] => some 0
  | c :: rest =>
    if c ≠ '0' && (c :: rest).all Char.isDigit then
      (some (Number.ofDecimalDigits (c :: rest))).filter (· < Number.twoTo 64)
    else none

/-- The property of a value; `undefined` where there is none. Texts are sequences of code points. -/
def property (receiver : Value) (key : String) : Value :=
  match receiver with
  | .string s =>
    if key = "length" then .number (Float.ofNat s.length)
    else match indexOfKey? key >>= (s.toList[·]?) with
      | some c => .string (String.singleton c)
      | none => .undefined
  | .array items =>
    if key = "length" then .number (Float.ofNat items.length)
    else (indexOfKey? key >>= (items[·]?)).getD .undefined
  | .object fields => (fields.lookup key).getD .undefined
  | .library l => (l.member? key).getD .undefined
  | .function f => if key = "name" then .string f.name else .undefined
  | _ => .undefined

end Reckoner.Value
