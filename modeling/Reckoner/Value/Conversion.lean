import Reckoner.Number.OfText
import Reckoner.Number.Text
import Reckoner.Value.Basic

namespace Reckoner.Value

mutual

/-- The text of a value. -/
def text : Value → String
  | .undefined => "undefined"
  | .null => "null"
  | .bool b => if b then "true" else "false"
  | .number x => Number.text x
  | .string s => s
  | .date t => t.text
  | .array items => ",".intercalate (itemTexts items)
  | .object _ => "[object Object]"
  | .function f => "function " ++ f.name ++ "() \x7b [native code] \x7d"
  | .library l => "[object " ++ l.name ++ "]"

/-- The texts of items; `undefined` and `null` leave gaps. -/
def itemTexts : List Value → List String
  | [] => []
  | item :: rest => (if item.isNullish then "" else text item) :: itemTexts rest

end

/-- The number of a value. -/
def toNumber : Value → Float
  | .undefined => Number.notANumber
  | .null => 0.0
  | .bool b => if b then 1.0 else 0.0
  | .number x => x
  | .string s => Number.ofText s
  | .date t => t.timeValue
  | .array items => Number.ofText (text (.array items))
  | .object _ | .function _ | .library _ => Number.notANumber

/-- The value that takes part in an operation on primitive values: the text in place of a date, a
container or a built-in. -/
def toPrimitive : Value → Value
  | .date t => .string t.text
  | .array items => .string (text (.array items))
  | .object fields => .string (text (.object fields))
  | .function f => .string (text (.function f))
  | .library l => .string (text (.library l))
  | v => v

/-- As `toPrimitive`, but the time value in place of a date. -/
def toNumericPrimitive : Value → Value
  | .date t => .number t.timeValue
  | v => v.toPrimitive

end Reckoner.Value
