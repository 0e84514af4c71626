import Reckoner.Value.Conversion

namespace Reckoner.Value

mutual

/-- The operator `===`. Containers are compared by their content, built-ins by their names, and NaN
equals nothing. -/
def strictEquals : Value → Value → Bool
  | .undefined, .undefined => true
  | .null, .null => true
  | .bool a, .bool b => a == b
  | .number x, .number y => x == y
  | .string s, .string t => s == t
  | .date t, .date u => t == u
  | .array xs, .array ys => strictEqualItems xs ys
  | .object xs, .object ys => strictEqualFields xs ys
  | .function f, .function g => f.name == g.name
  | .library l, .library m => l == m
  | _, _ => false

def strictEqualItems : List Value → List Value → Bool
  | [], [] => true
  | x :: xs, y :: ys => strictEquals x y && strictEqualItems xs ys
  | _, _ => false

def strictEqualFields : List (String × Value) → List (String × Value) → Bool
  | [], [] => true
  | (k, x) :: xs, (l, y) :: ys => k == l && strictEquals x y && strictEqualFields xs ys
  | _, _ => false

end

mutual

/-- Sameness of values: as `===`, but NaN is the same as NaN at any depth. -/
def same : Value → Value → Bool
  | .number x, .number y => x == y || (x.isNaN && y.isNaN)
  | .array xs, .array ys => sameItems xs ys
  | .object xs, .object ys => sameFields xs ys
  | v, w => strictEquals v w

def sameItems : List Value → List Value → Bool
  | [], [] => true
  | x :: xs, y :: ys => same x y && sameItems xs ys
  | _, _ => false

def sameFields : List (String × Value) → List (String × Value) → Bool
  | [], [] => true
  | (k, x) :: xs, (l, y) :: ys => k == l && same x y && sameFields xs ys
  | _, _ => false

end

/-- A number in place of a truth value. -/
def unbool : Value → Value
  | .bool b => .number (if b then 1.0 else 0.0)
  | v => v

/-- Numbers and texts. -/
def isScalar : Value → Bool
  | .number _ | .string _ => true
  | _ => false

/-- A text and a number are equal as numbers. -/
def scalarEquals : Value → Value → Bool
  | .number x, .string s => x == Number.ofText s
  | .string s, .number x => Number.ofText s == x
  | v, w => strictEquals v w

/-- The operator `==`. `undefined` and `null` equal each other and nothing else. Truth values count
as numbers, and a container or a built-in meets a number or a text as its own text. -/
def looseEquals (v w : Value) : Bool :=
  if v.isNullish || w.isNullish then v.isNullish && w.isNullish
  else
    let v := v.unbool
    let w := w.unbool
    if v.isScalar then scalarEquals v w.toPrimitive
    else if w.isScalar then scalarEquals v.toPrimitive w
    else strictEquals v w

end Reckoner.Value
