import Reckoner.Syntax
import Reckoner.Value.Equality

namespace Reckoner

namespace Number

/-- A power. It is NaN for the exponent NaN and for an infinite exponent of one or minus one. -/
def power (base exponent : Float) : Float :=
  if exponent.isNaN || (base.abs == 1.0 && exponent.isInf) then notANumber
  else base.pow exponent

/-- The order of two numbers, unless one is NaN. -/
def compare? (x y : Float) : Option Ordering :=
  if x < y then some .lt else if y < x then some .gt else if x == y then some .eq else none

end Number

namespace Value

/-- The operator `+`: texts are joined as soon as one side is a text. -/
def add (v w : Value) : Value :=
  match v.toPrimitive, w.toPrimitive with
  | .string s, w => .string (s ++ w.text)
  | v, .string t => .string (v.text ++ t)
  | v, w => .number (v.toNumber + w.toNumber)

/-- The order of two values: of texts by code points, of all else as numbers. -/
def compare? (v w : Value) : Option Ordering :=
  match v.toNumericPrimitive, w.toNumericPrimitive with
  | .string s, .string t => some (compare s t)
  | v, w => Number.compare? v.toNumber w.toNumber

/-- Applies an operation to numbers. -/
def arithmetic (f : Float → Float → Float) (v w : Value) : Value :=
  .number (f v.toNumber w.toNumber)

end Value

/-- The result of an operator on two values. The operators that may leave their right operand alone
have none. -/
def BinaryOp.apply (op : BinaryOp) (v w : Value) : Except EvalError Value :=
  match op with
  | add => .ok (v.add w)
  | subtract => .ok (.arithmetic (· - ·) v w)
  | multiply => .ok (.arithmetic (· * ·) v w)
  | divide => .ok (.arithmetic (· / ·) v w)
  | modulo => .ok (.arithmetic Number.remainder v w)
  | power => .ok (.arithmetic Number.power v w)
  | looseEqual => .ok (.bool (v.looseEquals w))
  | looseNotEqual => .ok (.bool !(v.looseEquals w))
  | strictEqual => .ok (.bool (v.strictEquals w))
  | strictNotEqual => .ok (.bool !(v.strictEquals w))
  | less => .ok (.bool (v.compare? w == some .lt))
  | greater => .ok (.bool (v.compare? w == some .gt))
  | lessEqual => .ok (.bool (v.compare? w == some .lt || v.compare? w == some .eq))
  | greaterEqual => .ok (.bool (v.compare? w == some .gt || v.compare? w == some .eq))
  | and | or | nullish => .error (.lazyOperator op.symbol)

end Reckoner
