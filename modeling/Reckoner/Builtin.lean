namespace Reckoner

/-- The functions of one number. -/
inductive Elementary where
  | abs | ceil | floor | round | trunc | sign | sqrt | cbrt | exp | log | log10 | log2
  | sin | cos | tan
deriving DecidableEq, Repr

def Elementary.name : Elementary → String
  | abs => "abs"
  | ceil => "ceil"
  | floor => "floor"
  | round => "round"
  | trunc => "trunc"
  | sign => "sign"
  | sqrt => "sqrt"
  | cbrt => "cbrt"
  | exp => "exp"
  | log => "log"
  | log10 => "log10"
  | log2 => "log2"
  | sin => "sin"
  | cos => "cos"
  | tan => "tan"

/-- The operations on two numbers that work elementwise on arrays. -/
inductive Arithmetic where
  | add | sub | mul | div | pow
deriving DecidableEq, Repr

def Arithmetic.name : Arithmetic → String
  | add => "add"
  | sub => "sub"
  | mul => "mul"
  | div => "div"
  | pow => "pow"

/-- The built-in functions. -/
inductive Builtin where
  /-- A function of the first argument as a number. -/
  | scalar (f : Elementary)
  | power
  | minimum
  | maximum
  | hypotenuse
  /-- A function of every number in the first argument. -/
  | elementwise (f : Elementary)
  /-- An operation on the numbers at equal places in the arguments. -/
  | pairwise (op : Arithmetic)
  | sum
  | product
  | dot
  | norm
  | supremum
  | infimum
  | linspace
  | number
  | string
  | boolean
  | date
  | error
  | parseInt
  | parseFloat
  | isNaN
  | isFinite
deriving DecidableEq, Repr

/-- The name of a function. Functions of different libraries may share it. -/
def Builtin.name : Builtin → String
  | scalar f => f.name
  | power => "pow"
  | minimum => "min"
  | maximum => "max"
  | hypotenuse => "hypot"
  | elementwise f => f.name
  | pairwise op => op.name
  | sum => "sum"
  | product => "prod"
  | dot => "dot"
  | norm => "norm2"
  | supremum => "sup"
  | infimum => "inf"
  | linspace => "linspace"
  | number => "Number"
  | string => "String"
  | boolean => "Boolean"
  | date => "Date"
  | error => "Error"
  | parseInt => "parseInt"
  | parseFloat => "parseFloat"
  | isNaN => "isNaN"
  | isFinite => "isFinite"

/-- The groups of built-ins. -/
inductive Library where
  | math
  | numeric
deriving DecidableEq, Repr

namespace Library

def name : Library → String
  | math => "Math"
  | numeric => "numeric"

/-- The members that are numbers. -/
def constants : Library → List (String × Float)
  | math => [("E", 2.718281828459045), ("PI", 3.141592653589793)]
  | numeric => []

end Library

end Reckoner
