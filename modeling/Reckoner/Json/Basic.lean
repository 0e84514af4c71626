import Reckoner.Number.Binary

namespace Reckoner

/-- A number of a JSON document. Whole numbers between `-2 ^ 63` and `2 ^ 64` that are written
without a fraction or an exponent are kept as integers. -/
inductive JsonNumber where
  | integer (n : Int)
  | float (x : Float)
deriving DecidableEq

/-- A JSON document. Members are in the order of their text. -/
inductive Json where
  | null
  | bool (b : Bool)
  | number (n : JsonNumber)
  | string (s : String)
  | array (items : List Json)
  | object (members : List (String × Json))
deriving Inhabited

/-- The nearest binary64 number. -/
def JsonNumber.toFloat : JsonNumber → Float
  | .integer n => Number.ofInt n
  | .float x => x

namespace Json

/-- The last member of a name. -/
def member? (name : String) : Json → Option Json
  | .object members => members.reverse.lookup name
  | _ => none

end Json

end Reckoner
