import Reckoner.Library.Vector
import Reckoner.Text.Digit

namespace Reckoner.Number

open Text

/-- A sign at the front of a text. -/
def splitSign : List Char → List Char × List Char
  | '+' :: rest => (['+'], rest)
  | '-' :: rest => (['-'], rest)
  | text => ([], text)

/-- Digits of any script at the front of a text. -/
def splitDigits (text : List Char) : List Char × List Char :=
  (text.takeWhile isDecimalDigit, text.dropWhile isDecimalDigit)

/-- An exponent at the front of a text, if it has a digit. -/
def exponentPrefix : List Char → List Char
  | [] => []
  | c :: rest =>
    if c = 'e' ∨ c = 'E' then
      let (sign, rest) := splitSign rest
      let (digits, _) := splitDigits rest
      if digits.isEmpty then [] else c :: sign ++ digits
    else []

/-- The longest front of a text that has the form of a decimal number, with digits of any script. -/
def decimalPrefix? (text : List Char) : Option (List Char) :=
  let (sign, body) := splitSign text
  if "Infinity".toList.isPrefixOf body then some (sign ++ "Infinity".toList)
  else
    let (whole, rest) := splitDigits body
    let (mantissa, rest) := match rest with
      | '.' :: rest =>
        let (fraction, behind) := splitDigits rest
        if whole.isEmpty && fraction.isEmpty then ([], '.' :: rest)
        else (whole ++ '.' :: fraction, behind)
      | rest => (whole, rest)
    if mantissa.isEmpty then none else some (sign ++ mantissa ++ exponentPrefix rest)

/-- The number at the front of a text behind blanks, as `parseFloat` reads it. NaN if there is none,
or if its digits are of another script. -/
def readPrefix (s : String) : Float :=
  match decimalPrefix? (trimStart s.toList) with
  | some number => ofText (String.ofList number)
  | none => notANumber

/-- An integer between zero and `2 ^ 32 - 1`, the nearest one to the integer part; zero for NaN. -/
def toWord (x : Float) : Nat :=
  match exact x with
  | .nan => 0
  | .infinite negative => if negative then 0 else twoTo 32 - 1
  | .finite .. => min ((toInt? x).getD 0).toNat (twoTo 32 - 1)

/-- The integer at the front of a text behind blanks, as `parseInt` reads it. Without a radix, or in
radix 16, the mark `0x` may precede the digits. The value is summed up from the first digit on. -/
def readInteger (s : String) (radix : Float) : Float :=
  let text := trimStart s.toList
  let (sign, text) := splitSign text
  let radix := toWord radix
  let (radix, text) :=
    if radix = 0 ∨ radix = 16 then
      match text with
      | '0' :: 'x' :: rest | '0' :: 'X' :: rest => (16, rest)
      | _ => (radix, text)
    else (radix, text)
  let radix := if radix = 0 then 10 else radix
  if radix < 2 ∨ 36 < radix then notANumber
  else
    let values := (text.map (digitValue? radix)).takeWhile Option.isSome |>.filterMap id
    if values.isEmpty then notANumber
    else
      let magnitude := values.foldl
        (fun total value => total * Float.ofNat radix + Float.ofNat value) 0.0
      withSign (sign == ['-']) magnitude

end Reckoner.Number
