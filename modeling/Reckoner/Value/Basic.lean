import Reckoner.Builtin
import Reckoner.Calendar.Instant
import Reckoner.Dict

namespace Reckoner

/-- The values that calculations compute with. -/
inductive Value where
  | undefined
  | null
  | bool (b : Bool)
  | number (x : Float)
  | string (s : String)
  | date (t : Calendar.Instant)
  | array (items : List Value)
  | object (fields : List (String × Value))
  | function (f : Builtin)
  | library (l : Library)
deriving Inhabited

namespace Value

def isNullish : Value → Bool
  | undefined | null => true
  | _ => false

/-- The answer of `typeof`. -/
def typeName : Value → String
  | undefined => "undefined"
  | bool _ => "boolean"
  | number _ => "number"
  | string _ => "string"
  | function _ => "function"
  | null | date _ | array _ | object _ | library _ => "object"

/-- Whether a value counts as true. Of the numbers zero and NaN do not, and of the texts the empty
one. -/
def isTruthy : Value → Bool
  | undefined | null => false
  | bool b => b
  | number x => !(x.isNaN || x == 0.0)
  | string s => s != ""
  | _ => true

end Value

/-- The caller's named values. -/
abbrev State := Dict Value

/-- Why a calculation fails. -/
inductive EvalError where
  | notDefined (name : String)
  | constantAssignment
  | readOnly (name : String)
  | cannotRead (receiver : Value) (key : String)
  | notFunction (callee : String)
  | notConstructor (callee : String)
  | lazyOperator (symbol : String)
  | dimensionMismatch (left right : Nat)
  | pointCount
  | fixedDigits
  | radix
  | invalidTime
  | missingTime
  | thrown (value : Value)

end Reckoner
