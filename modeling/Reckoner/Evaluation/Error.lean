import Reckoner.Value.Conversion

namespace Reckoner

/-- The families of errors. -/
inductive ErrorKind where
  | reference
  | type
  | range
  | thrown
deriving DecidableEq, Repr

namespace EvalError

def kind : EvalError → ErrorKind
  | notDefined _ => .reference
  | constantAssignment | readOnly _ | cannotRead .. | notFunction _ | notConstructor _
  | lazyOperator _ => .type
  | dimensionMismatch .. | pointCount | fixedDigits | radix | invalidTime | missingTime => .range
  | thrown _ => .thrown

/-- The message without the family. A thrown object gives its `message`. -/
def message : EvalError → String
  | notDefined name => name ++ " is not defined"
  | constantAssignment => "Assignment to constant variable."
  | readOnly name => "Cannot assign to read only property '" ++ name ++ "'"
  | cannotRead receiver key =>
    "Cannot read properties of " ++ receiver.text ++ " (reading '" ++ key ++ "')"
  | notFunction callee => callee ++ " is not a function"
  | notConstructor callee => callee ++ " is not a constructor"
  | lazyOperator symbol => "operator " ++ symbol ++ " cannot be applied to evaluated operands"
  | dimensionMismatch left right =>
    "numeric: dimension mismatch (" ++ toString left ++ " vs " ++ toString right ++ ")"
  | pointCount => "numeric.linspace: invalid point count"
  | fixedDigits => "toFixed() digits argument must be between 0 and 100"
  | radix => "toString() radix must be between 2 and 36"
  | invalidTime => "Invalid time value"
  | missingTime => "Date requires an explicit time value"
  | thrown (.object fields) =>
    match fields.lookup "message" with
    | some v => v.text
    | none => (Value.object fields).text
  | thrown v => v.text

/-- The family and the message; a thrown value is shown as a whole. -/
def display (e : EvalError) : String :=
  match e with
  | thrown v => "Uncaught " ++ v.text
  | e =>
    (match e.kind with
    | .reference => "ReferenceError: "
    | .type => "TypeError: "
    | .range => "RangeError: "
    | .thrown => "Uncaught ") ++ e.message

end EvalError

end Reckoner
