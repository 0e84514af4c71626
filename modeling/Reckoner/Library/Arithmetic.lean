import Reckoner.Number.CubeRoot
import Reckoner.Value.Operators

namespace Reckoner

namespace Number

/-- Rounds to the nearest integer, a half towards positive infinity. -/
def round (x : Float) : Float :=
  let below := floor x
  if x - below ≥ 0.5 then below + 1.0 else below

/-- The sign as a number; zeros and NaN are their own. -/
def sign (x : Float) : Float :=
  if x.isNaN || x == 0.0 then x else if x < 0.0 then -1.0 else 1.0

/-- The sum of numbers, from the first to the last; `-0` for none. -/
def sum (xs : List Float) : Float := xs.foldl (· + ·) (-0.0)

def product (xs : List Float) : Float := xs.foldl (· * ·) 1.0

/-- The least number; infinity for none, NaN if there is a NaN. -/
def minimum (xs : List Float) : Float :=
  xs.foldl (fun least x => if least.isNaN || x.isNaN then notANumber else lesser least x) infinity

/-- The greatest number; minus infinity for none, NaN if there is a NaN. -/
def maximum (xs : List Float) : Float :=
  xs.foldl (fun greatest x =>
    if greatest.isNaN || x.isNaN then notANumber else greater greatest x) (-infinity)

/-- The square root of the sum of the squares. -/
def norm (xs : List Float) : Float := (sum (xs.map fun x => x * x)).sqrt

end Number

def Elementary.apply : Elementary → Float → Float
  | abs => Float.abs
  | ceil => Number.ceil
  | floor => Number.floor
  | round => Number.round
  | trunc => Number.trunc
  | sign => Number.sign
  | sqrt => Float.sqrt
  | cbrt => Number.cubeRoot
  | exp => Float.exp
  | log => Float.log
  | log10 => Float.log10
  | log2 => Float.log2
  | sin => Float.sin
  | cos => Float.cos
  | tan => Float.tan

def Arithmetic.apply : Arithmetic → Float → Float → Float
  | add => (· + ·)
  | sub => (· - ·)
  | mul => (· * ·)
  | div => (· / ·)
  | pow => Number.power

end Reckoner
