namespace Reckoner.Number

/-- A power of two. -/
def twoTo (n : Nat) : Nat := Nat.pow 2 n

/-- A power of ten. -/
def tenTo (n : Nat) : Nat := Nat.pow 10 n

/-- The exact content of a binary64 number: a finite one is `significand * 2 ^ exponent`. -/
inductive Exact where
  | nan
  | infinite (negative : Bool)
  | finite (negative : Bool) (significand : Nat) (exponent : Int)
deriving DecidableEq, Repr

/-- Splits the sign, exponent and fraction fields of the bits. -/
def Exact.ofBits (bits : Nat) : Exact :=
  let negative := bits / twoTo 63 == 1
  let field : Nat := bits / twoTo 52 % twoTo 11
  let fraction : Nat := bits % twoTo 52
  if field = 2047 then if fraction = 0 then .infinite negative else .nan
  else if field = 0 then .finite negative fraction (-1074)
  else .finite negative (twoTo 52 + fraction) ((field : Int) - 1075)

/-- The exact content of a number. -/
def exact (x : Float) : Exact := .ofBits x.toBits.toNat

def withSign (negative : Bool) (x : Float) : Float :=
  if negative then -x else x

/-- The number `significand * 2 ^ exponent`, for a significand of at most `2 ^ 53`, an exponent from
-1074 up, and a number in the range of binary64. The significand is shifted up as far as the exponent
field allows; its leading digit adds one to that field, or two if it is `2 ^ 53`. -/
def ofParts (negative : Bool) (significand : Nat) (exponent : Int) : Float :=
  if significand = 0 then withSign negative 0.0
  else
    let shift := min (52 - significand.log2) (exponent + 1074).toNat
    let scaled := significand * twoTo shift
    let field := (exponent - shift + 1074).toNat
    withSign negative (Float.ofBits (UInt64.ofNat (field * twoTo 52 + scaled)))

def notANumber : Float := 0.0 / 0.0

def infinity : Float := 1.0 / 0.0

/-- The integer next to a number on the side of zero; none for NaN and the infinities. -/
def toInt? (x : Float) : Option Int :=
  match exact x with
  | .finite negative m q =>
    let magnitude : Int :=
      if 0 ≤ q then (m * twoTo q.toNat : Nat) else (m / twoTo (-q).toNat : Nat)
    some (if negative then -magnitude else magnitude)
  | _ => none

/-- A finite number without a fractional part. -/
def isWhole (x : Float) : Bool :=
  match exact x with
  | .finite _ m q => 0 ≤ q || m % twoTo (-q).toNat == 0
  | _ => false

/-- Replaces the magnitude of a number that may have a fractional part by a whole one, chosen from
its sign, its integer part and whether a fractional part is left. The sign of zero is kept. -/
def roundWith (choose : Bool → Nat → Bool → Nat) (x : Float) : Float :=
  match exact x with
  | .finite negative m q =>
    if 0 ≤ q then x
    else
      let unit := twoTo (-q).toNat
      withSign negative (Float.ofNat (choose negative (m / unit) (m % unit != 0)))
  | _ => x

/-- Rounds towards zero. -/
def trunc : Float → Float := roundWith fun _ whole _ => whole

/-- Rounds towards negative infinity. -/
def floor : Float → Float := roundWith fun negative whole rest =>
  if negative && rest then whole + 1 else whole

/-- Rounds towards positive infinity. -/
def ceil : Float → Float := roundWith fun negative whole rest =>
  if !negative && rest then whole + 1 else whole

/-- The exact remainder of a truncating division; it takes the sign of the dividend. -/
def remainder (x y : Float) : Float :=
  match exact x, exact y with
  | .finite negative m q, .finite _ n r =>
    if n = 0 then notANumber
    else
      let low := min q r
      ofParts negative (m * twoTo (q - low).toNat % (n * twoTo (r - low).toNat)) low
  | .finite .., .infinite _ => x
  | _, _ => notANumber

/-- The numerically smaller of two numbers, neither of them NaN. -/
def lesser (x y : Float) : Float := if y < x then y else x

/-- The numerically larger of two numbers, neither of them NaN. -/
def greater (x y : Float) : Float := if x < y then y else x

/-- The number nearest to an integer. -/
def ofInt (n : Int) : Float :=
  withSign (n < 0) (Float.ofNat n.natAbs)

end Reckoner.Number
