import Reckoner.Library.Dates
import Reckoner.Library.Reading

namespace Reckoner

open Value

/-- The argument at a place, `undefined` if it is missing. -/
def argument (args : List Value) (i : Nat) : Value := args[i]?.getD .undefined

/-- An object with the text of the argument as its message. -/
def makeError (args : List Value) : Value :=
  .object [("message", .string
    (match argument args 0 with
    | .undefined => ""
    | v => v.text))]

namespace Builtin

/-- The result of a call. -/
def call (f : Builtin) (args : List Value) : Except EvalError Value :=
  let first := argument args 0
  match f with
  | scalar f => .ok (.number (f.apply first.toNumber))
  | power => .ok (.number (Number.power first.toNumber (argument args 1).toNumber))
  | minimum => .ok (.number (Number.minimum (args.map toNumber)))
  | maximum => .ok (.number (Number.maximum (args.map toNumber)))
  | hypotenuse =>
    let xs := args.map toNumber
    .ok (.number (if xs.any Float.isInf then Number.infinity else Number.norm xs))
  | elementwise f => .ok (first.mapNumbers f.apply)
  | pairwise op => foldNumbers op.apply args
  | sum => .ok (.number (Number.sum first.numbers))
  | product => .ok (.number (Number.product first.numbers))
  | dot => Value.dot first (argument args 1)
  | norm => .ok (.number (Number.norm first.numbers))
  | supremum => .ok (.number (Number.maximum first.numbers))
  | infimum => .ok (.number (Number.minimum first.numbers))
  | linspace => Value.linspace first.toNumber (argument args 1).toNumber (argument args 2)
  | number => .ok (.number ((args.head?.map toNumber).getD 0.0))
  | string => .ok (.string ((args.head?.map text).getD ""))
  | boolean => .ok (.bool first.isTruthy)
  | date => (makeDate args).map fun d => .string d.text
  | error => .ok (makeError args)
  | parseInt => .ok (.number (Number.readInteger first.text (argument args 1).toNumber))
  | parseFloat => .ok (.number (Number.readPrefix first.text))
  | isNaN => .ok (.bool first.toNumber.isNaN)
  | isFinite => .ok (.bool first.toNumber.isFinite)

/-- What `new` does with a function, for the functions that make objects. -/
def construct? : Builtin → Option (List Value → Except EvalError Value)
  | date => some makeDate
  | error => some fun args => .ok (makeError args)
  | _ => none

end Builtin

namespace Library

/-- The functions of a library. -/
def functions : Library → List Builtin
  | math =>
    [.scalar .abs, .scalar .cbrt, .scalar .ceil, .scalar .cos, .scalar .exp, .scalar .floor,
      .hypotenuse, .scalar .log, .scalar .log10, .scalar .log2, .maximum, .minimum, .power,
      .scalar .round, .scalar .sign, .scalar .sin, .scalar .sqrt, .scalar .tan, .scalar .trunc]
  | numeric =>
    [.elementwise .abs, .pairwise .add, .elementwise .ceil, .pairwise .div, .dot,
      .elementwise .exp, .elementwise .floor, .infimum, .linspace, .elementwise .log,
      .pairwise .mul, .norm, .pairwise .pow, .product, .elementwise .round, .elementwise .sqrt,
      .pairwise .sub, .sum, .supremum]

/-- The member of a name. -/
def member? (l : Library) (name : String) : Option Value :=
  match l.constants.lookup name with
  | some x => some (.number x)
  | none => (l.functions.find? (·.name == name)).map .function

end Library

/-- The global names and their values, in ascending order. -/
def globals : Dict Value :=
  [("Boolean", .function .boolean), ("Date", .function .date), ("Error", .function .error),
    ("Infinity", .number Number.infinity), ("Math", .library .math),
    ("NaN", .number Number.notANumber), ("Number", .function .number),
    ("String", .function .string), ("isFinite", .function .isFinite), ("isNaN", .function .isNaN),
    ("numeric", .library .numeric), ("parseFloat", .function .parseFloat),
    ("parseInt", .function .parseInt)]

end Reckoner
