import Reckoner.Json.Basic
import Reckoner.Value.Conversion

namespace Reckoner.Value

/-- Whole numbers below `2 ^ 53` are written as integers, and numbers that are not finite as
`null`. -/
def numberDocument (x : Float) : Json :=
  match Number.exact x with
  | .finite .. =>
    if Number.isWhole x && x.abs < 9007199254740992.0 then
      .number (.integer ((Number.toInt? x).getD 0))
    else .number (.float x)
  | _ => .null

mutual

/-- The JSON document of a value. Functions and `undefined` become `null`, dates their text, and a
library its constants. -/
def toJson : Value → Json
  | .undefined | .null | .function _ => .null
  | .bool b => .bool b
  | .number x => numberDocument x
  | .string s => .string s
  | .date t => .string t.text
  | .array items => .array (itemsToJson items)
  | .object fields => .object (fieldsToJson fields)
  | .library l => .object (l.constants.map fun (name, x) => (name, numberDocument x))

def itemsToJson : List Value → List Json
  | [] => []
  | item :: rest => toJson item :: itemsToJson rest

def fieldsToJson : List (String × Value) → List (String × Json)
  | [] => []
  | (name, value) :: rest => (name, toJson value) :: fieldsToJson rest

end

mutual

/-- The value of a JSON document. Of several members of one name the last counts. -/
def ofJson : Json → Value
  | .null => .null
  | .bool b => .bool b
  | .number n => .number n.toFloat
  | .string s => .string s
  | .array items => .array (itemsOfJson items)
  | .object members => .object (Dict.ofList (membersOfJson members))

def itemsOfJson : List Json → List Value
  | [] => []
  | item :: rest => ofJson item :: itemsOfJson rest

def membersOfJson : List (String × Json) → List (String × Value)
  | [] => []
  | (name, document) :: rest => (name, ofJson document) :: membersOfJson rest

end

end Reckoner.Value
