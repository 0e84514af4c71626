import Reckoner.Configuration.Basic
import Reckoner.Library.Dates

namespace Reckoner

/-- Brings a value to a declared type. What is no date stays as it is, and what is no number becomes
NaN. -/
def ResultType.coerce (type : ResultType) (v : Value) : Value :=
  match type with
  | date =>
    match v.toInstant? with
    | some t => .date t
    | none => v
  | string => .string v.text
  | number => .number v.toNumber
  | boolean => .bool v.isTruthy
  | untyped => v

end Reckoner
