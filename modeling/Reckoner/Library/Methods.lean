import Reckoner.Library.Property
import Reckoner.Text.Case
import Reckoner.Text.Search

namespace Reckoner.Value

/-- A position in a sequence: the integer part of a number, brought between zero and the length. -/
def position (length : Nat) (x : Float) : Nat :=
  match Number.exact x with
  | .nan => 0
  | .infinite negative => if negative then 0 else length
  | .finite .. => min ((Number.toInt? x).getD 0).toNat length

/-- A position that counts from the end if it is negative. -/
def relativePosition (length : Nat) (x : Float) : Nat :=
  match Number.toInt? x with
  | some n => if n < 0 then (length + n).toNat else min n.toNat length
  | none => position length x

/-- An optional argument as a position. -/
def positionOr (missing length : Nat) (place : Nat → Float → Nat) : Value → Nat
  | .undefined => missing
  | v => place length v.toNumber

/-- The items from one position to another; none if the second is not behind the first. -/
def sliceOf {α : Type} (items : List α) (args : List Value) : List α :=
  let start := positionOr 0 items.length relativePosition (argument args 0)
  let stop := positionOr items.length items.length relativePosition (argument args 1)
  (items.take stop).drop start

/-- The first position not before `start` at which `needle` occurs. Nothing occurs everywhere. -/
def find? (needle text : List Char) (start : Nat) : Option Nat :=
  if needle.isEmpty then some (min start text.length)
  else (Text.firstOccurrence? needle (text.drop start)).map (start + ·)

/-- A position as a number, `-1` for none. -/
def positionNumber : Option Nat → Value
  | some i => .number (Float.ofNat i)
  | none => .number (-1.0)

/-- The character of a digit. -/
def digitChar (n : Nat) : Char :=
  if n < 10 then Char.ofNat ('0'.toNat + n) else Char.ofNat ('a'.toNat + (n - 10))

/-- The digits of a whole number in a radix, the last one first, as far as `limit` reaches. -/
def radixDigits (radix : Nat) : Nat → Float → List Char
  | 0, _ => []
  | limit + 1, magnitude =>
    if magnitude ≥ 1.0 then
      let digit := ((Number.toInt? (Number.remainder magnitude (Float.ofNat radix))).getD 0).toNat
      digitChar digit ::
        radixDigits radix limit (Number.floor (magnitude / Float.ofNat radix))
    else []

/-- The text of a number in a radix; numbers with a fraction are written in decimal all the same.
Binary64 numbers have at most 1024 digits. -/
def radixText (x : Float) (radix : Nat) : String :=
  if radix = 10 || !Number.isWhole x then Number.text x
  else
    let digits := match radixDigits radix 1024 x.abs with
      | [] => ['0']
      | digits => digits.reverse
    String.ofList (Number.signed (x < 0.0) digits)

/-- The method `toString` of a number. -/
def numberToString (x : Float) (radix : Value) : Except EvalError Value :=
  let radix := match radix with
    | .undefined => 10.0
    | v => integerPart v.toNumber
  if 2.0 ≤ radix ∧ radix ≤ 36.0 then
    .ok (.string (radixText x ((Number.toInt? radix).getD 0).toNat))
  else .error .radix

/-- The method `toFixed` of a number. Large numbers are written as usual, and there is one zero. -/
def numberToFixed (x : Float) (places : Value) : Except EvalError Value :=
  let places := integerPart places.toNumber
  if 0.0 ≤ places ∧ places ≤ 100.0 then
    .ok (.string
      (if !x.isFinite || x.abs ≥ 1e21 then Number.text x
      else Number.fixed ((Number.toInt? places).getD 0).toNat (if x == 0.0 then 0.0 else x)))
  else .error .fixedDigits

/-- The methods of texts. -/
def stringMethod (s : String) (name : String) (args : List Value) : Option Value :=
  let chars := s.toList
  let needle := (argument args 0).text.toList
  let start := positionOr 0 chars.length position (argument args 1)
  match name with
  | "toUpperCase" => some (.string (Text.toUpper s))
  | "toLowerCase" => some (.string (Text.toLower s))
  | "trim" => some (.string (String.ofList (Text.trim chars)))
  | "toString" => some (.string s)
  | "includes" => some (.bool (find? needle chars start).isSome)
  | "startsWith" => some (.bool (needle.isPrefixOf (chars.drop start)))
  | "endsWith" =>
    let stop := positionOr chars.length chars.length position (argument args 1)
    some (.bool (needle.isSuffixOf (chars.take stop)))
  | "indexOf" => some (positionNumber (find? needle chars start))
  | "slice" => some (.string (String.ofList (sliceOf chars args)))
  | "substring" =>
    let a := positionOr 0 chars.length position (argument args 0)
    let b := positionOr chars.length chars.length position (argument args 1)
    some (.string (String.ofList ((chars.take (max a b)).drop (min a b))))
  | _ => none

/-- What `includes` looks for: a strictly equal item, or NaN for NaN. -/
def includesEqual : Value → Value → Bool
  | .number x, .number y => (x.isNaN && y.isNaN) || x == y
  | v, w => v.strictEquals w

/-- The methods of arrays. -/
def arrayMethod (items : List Value) (name : String) (args : List Value) : Option Value :=
  let target := argument args 0
  match name with
  | "includes" => some (.bool (items.any (includesEqual · target)))
  | "indexOf" => some (positionNumber (items.findIdx? (·.strictEquals target)))
  | "join" =>
    let separator := match target with
      | .undefined => ","
      | v => v.text
    some (.string (separator.intercalate (itemTexts items)))
  | "slice" => some (.array (sliceOf items args))
  | "toString" => some (.string (text (.array items)))
  | _ => none

/-- The methods of dates. -/
def dateMethod (t : Calendar.Instant) : String → Option Value
  | "getTime" | "valueOf" => some (.number t.timeValue)
  | "getFullYear" => some (.number (Number.ofInt t.date.year))
  | "getMonth" => some (.number (Float.ofNat (t.date.month - 1)))
  | "getDate" => some (.number (Float.ofNat t.date.day))
  | "getDay" => some (.number (Float.ofNat (Calendar.weekday t.days)))
  | "toISOString" | "toJSON" | "toString" => some (.string t.text)
  | _ => none

/-- The result of a method; none if the value has no such method. -/
def callMethod (receiver : Value) (name : String) (args : List Value) :
    Option (Except EvalError Value) :=
  match receiver with
  | .number x =>
    if name = "toFixed" then some (numberToFixed x (argument args 0))
    else if name = "toString" then some (numberToString x (argument args 0))
    else none
  | .string s => (stringMethod s name args).map .ok
  | .array items => (arrayMethod items name args).map .ok
  | .date t => (dateMethod t name).map .ok
  | .bool b => if name = "toString" then some (.ok (.string (text (.bool b)))) else none
  | _ => none

end Reckoner.Value
