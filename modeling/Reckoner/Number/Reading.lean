import Reckoner.Number.Binary

namespace Reckoner.Number

/-- The value of a character as a digit of a radix up to 36; letters of either case count from
ten. -/
def digitValue? (radix : Nat) (c : Char) : Option Nat :=
  let value :=
    if c.isDigit then c.toNat - '0'.toNat
    else if c.isLower then c.toNat - 'a'.toNat + 10
    else if c.isUpper then c.toNat - 'A'.toNat + 10
    else 36
  if value < radix then some value else none

/-- The number that up to `2 ^ level` digits at the front of a list denote, the power of the radix
that stands one place before them, and the digits behind. Both halves are read on their own, so that
few products have large factors. -/
def ofDigitsTo (radix : Nat) : Nat → List Nat → Nat × Nat × List Nat
  | _, [] => (0, 1, [])
  | 0, value :: rest => (value, radix, rest)
  | level + 1, values =>
    let (high, scale, behind) := ofDigitsTo radix level values
    let (low, place, rest) := ofDigitsTo radix level behind
    (high * place + low, scale * place, rest)

/-- The natural number that digits of a radix denote. -/
def ofDigits (radix : Nat) (values : List Nat) : Nat :=
  (ofDigitsTo radix (values.length.log2 + 1) values).1

/-- The number that a text of decimal digits denotes; other characters count as zero. -/
def ofDecimalDigits (text : List Char) : Nat :=
  ofDigits 10 (text.map fun c => (digitValue? 10 c).getD 0)

/-- One or more digits of a radix and nothing else. A plus sign may precede them. -/
def readNatural? (radix : Nat) (text : List Char) : Option Nat :=
  let body := match text with
    | '+' :: rest => rest
    | _ => text
  if body.isEmpty then none else (body.mapM (digitValue? radix)).map (ofDigits radix)

/-- The parts of an unsigned decimal literal. -/
structure Literal where
  whole : List Char
  fraction : List Char
  exponent : Int
deriving DecidableEq, Repr

/-- The number that the digits of an exponent denote. A digit behind a number of `2 ^ 16` or more
no longer counts. -/
def ofExponentDigits (text : List Char) : Nat :=
  text.foldl
    (fun total c => if total < twoTo 16 then total * 10 + (digitValue? 10 c).getD 0 else total) 0

/-- Reads `e` or `E`, a sign and digits. -/
def readExponent? (text : List Char) : Option (Int × List Char) :=
  match text with
  | c :: rest =>
    if c = 'e' ∨ c = 'E' then
      let (negative, rest) := match rest with
        | '+' :: rest => (false, rest)
        | '-' :: rest => (true, rest)
        | _ => (false, rest)
      let figures := rest.takeWhile Char.isDigit
      if figures.isEmpty then none
      else
        let size : Int := ofExponentDigits figures
        some (if negative then -size else size, rest.dropWhile Char.isDigit)
    else none
  | [] => none

/-- Reads the longest unsigned decimal literal at the start of a text: digits with an optional point
before, among or after them, and an exponent if one follows. -/
def readLiteral? (text : List Char) : Option (Literal × List Char) :=
  let whole := text.takeWhile Char.isDigit
  let (fraction, rest) := match text.dropWhile Char.isDigit with
    | '.' :: rest =>
      if whole.isEmpty && (rest.takeWhile Char.isDigit).isEmpty then ([], '.' :: rest)
      else (rest.takeWhile Char.isDigit, rest.dropWhile Char.isDigit)
    | rest => ([], rest)
  if whole.isEmpty && fraction.isEmpty then none
  else match readExponent? rest with
    | some (exponent, rest) => some (⟨whole, fraction, exponent⟩, rest)
    | none => some (⟨whole, fraction, 0⟩, rest)

/-- The number nearest to a coefficient, given by its digits, times a power of ten. Far outside the
range of binary64 the answer is known without computing the power. -/
def nearest (coefficient : List Char) (exponent : Int) : Float :=
  let digits := coefficient.dropWhile (· = '0')
  let magnitude : Int := digits.length + exponent
  if digits.isEmpty ∨ magnitude < -400 then 0.0
  else if 400 < magnitude then infinity
  else Float.ofScientific (ofDecimalDigits digits) (exponent < 0) exponent.natAbs

/-- The number nearest to a literal. -/
def Literal.value (l : Literal) : Float :=
  nearest (l.whole ++ l.fraction) (l.exponent - l.fraction.length)

/-- A decimal literal with an optional sign and nothing else. -/
def readDecimal? (text : List Char) : Option Float :=
  let (negative, body) := match text with
    | '-' :: rest => (true, rest)
    | '+' :: rest => (false, rest)
    | _ => (false, text)
  match readLiteral? body with
  | some (l, []) => some (withSign negative l.value)
  | _ => none

end Reckoner.Number
