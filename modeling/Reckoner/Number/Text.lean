import Reckoner.Number.Shortest

namespace Reckoner.Number

/-- The decimal digits of a natural number. -/
def decimalDigits (n : Nat) : List Char := Nat.toDigits 10 n

def zeros (n : Nat) : List Char := List.replicate n '0'

/-- Digits and the place of the decimal point, counted from before the first digit. -/
structure Pointed where
  digits : List Char
  point : Int
deriving DecidableEq, Repr

def Decimal.pointed (d : Decimal) : Pointed where
  digits := decimalDigits d.coefficient
  point := (decimalDigits d.coefficient).length + d.exponent

/-- How numbers are laid out as text. -/
structure Layout where
  /-- Which of two equally near shortest decimals is written. -/
  tie : Tie
  /-- Numbers with the point further left are written with an exponent. -/
  leastPoint : Option Int
  /-- Numbers with the point further right are written with an exponent. -/
  greatestPoint : Option Int
  /-- What follows a whole number that is written without an exponent. -/
  wholeSuffix : String
  negativeZero : String
  nan : String
  infinity : String

/-- The digits and the point, without an exponent. -/
def Pointed.positional (p : Pointed) (wholeSuffix : List Char) : List Char :=
  if p.digits.length ≤ p.point then
    p.digits ++ zeros (p.point.toNat - p.digits.length) ++ wholeSuffix
  else if 0 < p.point then
    p.digits.take p.point.toNat ++ '.' :: p.digits.drop p.point.toNat
  else
    '0' :: '.' :: zeros (-p.point).toNat ++ p.digits

/-- One digit, the others after a point, and the exponent with its sign. -/
def Pointed.scientific (p : Pointed) : List Char :=
  let exponent := p.point - 1
  let fraction := match p.digits.drop 1 with
    | [] => []
    | rest => '.' :: rest
  p.digits.take 1 ++ fraction ++ 'e' :: (if 0 ≤ exponent then '+' else '-') ::
    decimalDigits exponent.natAbs

/-- The text of the digits in a layout. -/
def Layout.place (layout : Layout) (p : Pointed) : List Char :=
  if layout.leastPoint.all (· ≤ p.point) && layout.greatestPoint.all (p.point ≤ ·) then
    p.positional layout.wholeSuffix.toList
  else p.scientific

def signed (negative : Bool) (text : List Char) : List Char :=
  if negative then '-' :: text else text

/-- The text of a number in a layout. -/
def Layout.render (layout : Layout) (x : Float) : String :=
  match exact x with
  | .nan => layout.nan
  | .infinite negative => String.ofList (signed negative layout.infinity.toList)
  | .finite negative significand exponent =>
    if significand = 0 then if negative then layout.negativeZero else "0" ++ layout.wholeSuffix
    else String.ofList
      (signed negative (layout.place (shortest layout.tie significand exponent).pointed))

/-- Numbers as the calculation language prints them: an exponent from `1e+21` up and from `1e-7`
down, and one zero. -/
def Layout.plain : Layout where
  tie := .up
  leastPoint := some (-5)
  greatestPoint := some 21
  wholeSuffix := ""
  negativeZero := "0"
  nan := "NaN"
  infinity := "Infinity"

/-- Numbers without an exponent, as error messages quote them. -/
def Layout.unscaled : Layout where
  tie := .up
  leastPoint := none
  greatestPoint := none
  wholeSuffix := ""
  negativeZero := "-0"
  nan := "NaN"
  infinity := "inf"

/-- Numbers in JSON documents that are not written as integers. -/
def Layout.json : Layout where
  tie := .even
  leastPoint := some (-4)
  greatestPoint := some 16
  wholeSuffix := ".0"
  negativeZero := "-0.0"
  nan := "null"
  infinity := "null"

/-- The text of a number in the calculation language. -/
def text (x : Float) : String := Layout.plain.render x

/-- The quotient rounded to the nearest integer, a half to the even one. -/
def divideToEven (numerator denominator : Nat) : Nat :=
  let quotient := numerator / denominator
  let rest := numerator % denominator
  if 2 * rest > denominator ∨ (2 * rest = denominator ∧ quotient % 2 = 1) then quotient + 1
  else quotient

/-- The exact value of a finite number rounded to a number of places, a half to the even digit. A
negative number keeps its sign when it rounds to zero. -/
def fixed (places : Nat) (x : Float) : String :=
  match exact x with
  | .finite negative significand exponent =>
    let scaled := divideToEven (significand * tenTo places * twoTo exponent.toNat)
      (twoTo (-exponent).toNat)
    let text := decimalDigits scaled
    let padded := zeros (places + 1 - text.length) ++ text
    let whole := padded.take (padded.length - places)
    let fraction := padded.drop (padded.length - places)
    String.ofList (signed negative (if places = 0 then whole else whole ++ '.' :: fraction))
  | _ => text x

end Reckoner.Number
