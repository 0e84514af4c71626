import Reckoner.Number.Binary

namespace Reckoner.Number

/-- Which of two equally near decimals is taken. -/
inductive Tie where
  | up
  | even
deriving DecidableEq, Repr

/-- The decimal `coefficient * 10 ^ exponent`. -/
structure Decimal where
  coefficient : Nat
  exponent : Int
deriving DecidableEq, Repr

/-- The reals that round to a positive binary64 number, in quarters of its last place: the number
is `middle`, its ends are `low` and `high`, and `closed` says whether the ends belong to it. One
quarter is `2 ^ exponent`. -/
structure RoundingInterval where
  low : Nat
  middle : Nat
  high : Nat
  closed : Bool
  exponent : Int
deriving DecidableEq, Repr

/-- Below a power of two the neighbour is half as far away. -/
def RoundingInterval.of (significand : Nat) (exponent : Int) : RoundingInterval where
  low := 4 * significand - if significand = twoTo 52 ∧ -1074 < exponent then 1 else 2
  middle := 4 * significand
  high := 4 * significand + 2
  closed := significand % 2 == 0
  exponent := exponent - 2

/-- The ratio `2 ^ binary / 10 ^ decimal` as a numerator and a denominator. -/
def scaleRatio (binary decimal : Int) : Nat × Nat :=
  (twoTo binary.toNat * tenTo (-decimal).toNat, tenTo decimal.toNat * twoTo (-binary).toNat)

/-- The point `d` of the decimal grid lies in the interval, given the scale of the grid. -/
def RoundingInterval.holds (interval : RoundingInterval) (ratio : Nat × Nat) (d : Nat) : Bool :=
  let point := d * ratio.2
  let low := interval.low * ratio.1
  let high := interval.high * ratio.1
  if interval.closed then low ≤ point && point ≤ high else low < point && point < high

/-- The least and the greatest point of the decimal grid in the interval. The first is the larger
one if the interval has none. -/
def RoundingInterval.ends (interval : RoundingInterval) (ratio : Nat × Nat) : Nat × Nat :=
  let low := interval.low * ratio.1
  let high := interval.high * ratio.1
  if interval.closed then ((low + ratio.2 - 1) / ratio.2, high / ratio.2)
  else (low / ratio.2 + 1, (high - 1) / ratio.2)

/-- How many digits, at most `limit`, can be left out at the end so that a point between `first` and
`last` remains. -/
def sparable (first last : Nat) : Nat → Nat
  | 0 => 0
  | limit + 1 =>
    if (first + 9) / 10 ≤ last / 10 then sparable ((first + 9) / 10) (last / 10) limit + 1 else 0

/-- The nearer of the two neighbours of the middle on the decimal grid, if it lies in the interval;
else the other one, which then does if the interval has a point of the grid. -/
def RoundingInterval.choose (interval : RoundingInterval) (tie : Tie) (ratio : Nat × Nat) : Nat :=
  let middle := interval.middle * ratio.1
  let below := middle / ratio.2
  let above := below + 1
  let toBelow := middle - below * ratio.2
  let toAbove := above * ratio.2 - middle
  let upwards :=
    if toBelow = toAbove then
      match tie with
      | .up => true
      | .even => below % 2 == 1
    else decide (toAbove < toBelow)
  let (first, second) := if upwards then (above, below) else (below, above)
  if interval.holds ratio first then first else second

/-- The number of decimal digits before the point of `significand * 2 ^ exponent`, zero or negative
for numbers below one: the least `k` with the number below `10 ^ k`. -/
def decimalMagnitude (significand : Nat) (exponent : Int) : Int :=
  let estimate := Int.fdiv ((significand.log2 + exponent) * 30103) 100000
  let below (k : Int) : Bool :=
    let ratio := scaleRatio exponent k
    decide (significand * ratio.1 < ratio.2)
  if below estimate then estimate else if below (estimate + 1) then estimate + 1 else estimate + 2

/-- Drops the zeros at the end of the coefficient, as many as `limit`. -/
def Decimal.trim : Nat → Decimal → Decimal
  | 0, d => d
  | limit + 1, d =>
    if d.coefficient % 10 = 0 then trim limit ⟨d.coefficient / 10, d.exponent + 1⟩ else d

/-- The whole number `significand * 2 ^ exponent`, if the exponent is not positive and the number is
whole. -/
def whole? (significand : Nat) (exponent : Int) : Option Nat :=
  let unit := twoTo (-exponent).toNat
  if exponent ≤ 0 ∧ significand % unit = 0 then some (significand / unit) else none

/-- The decimal with the fewest digits that rounds to `significand * 2 ^ exponent`, and of those the
nearest. A whole number below `2 ^ 53` is its own nearest decimal, and no decimal with fewer digits
before its zeros at the end rounds to it. For other numbers seventeen digits suffice. -/
def shortest (tie : Tie) (significand : Nat) (exponent : Int) : Decimal :=
  match whole? significand exponent with
  | some n => (Decimal.mk n 0).trim 17
  | none =>
    let interval := RoundingInterval.of significand exponent
    let finest := decimalMagnitude significand exponent - 17
    let ratio := scaleRatio interval.exponent finest
    let ends := interval.ends ratio
    let spared := sparable ends.1 ends.2 16
    let point := interval.choose tie (ratio.1, ratio.2 * tenTo spared)
    (Decimal.mk point (finest + spared)).trim 17

end Reckoner.Number
