import Reckoner.Evaluation.Basic
import Reckoner.Library.Methods

namespace Reckoner

def Literal.value : Literal → Value
  | .number x => .number x
  | .string s => .string s
  | .bool b => .bool b
  | .null => .null
  | .undefined => .undefined

def UnaryOp.apply : UnaryOp → Value → Value
  | not, v => .bool !v.isTruthy
  | negate, v => .number (-v.toNumber)
  | plus, v => .number v.toNumber
  | typeof, v => .string v.typeName

/-- The value of the left operand decides whether an operator leaves its right operand alone. -/
def BinaryOp.stopsAt : BinaryOp → Value → Bool
  | and, v => !v.isTruthy
  | or, v => v.isTruthy
  | nullish, v => !v.isNullish
  | _, _ => false

/-- The operators that may leave their right operand alone give it back as it is. -/
def BinaryOp.isLazy : BinaryOp → Bool
  | and | or | nullish => true
  | _ => false

/-- The property of a value; `undefined` and `null` have none. -/
def Value.readProperty (receiver : Value) (key : String) : Except EvalError Value :=
  if receiver.isNullish then .error (.cannotRead receiver key) else .ok (receiver.property key)

/-- Calls a value that was described as `callee`. -/
def Value.callAs (callee : Expr) (f : Value) (args : List Value) : Except EvalError Value :=
  match f with
  | .function f => f.call args
  | _ => .error (.notFunction callee.describe)

/-- Calls the property of an object or a built-in, or the method of any other value. -/
def Value.callProperty (callee : Expr) (receiver : Value) (key : String) (args : List Value) :
    Except EvalError Value :=
  match receiver with
  | .object _ | .library _ | .function _ => (receiver.property key).callAs callee args
  | _ => (receiver.callMethod key args).getD (.error (.notFunction callee.describe))

/-- Makes an object with a value that was described as `callee`. -/
def Value.constructAs (callee : Expr) (f : Value) (args : List Value) : Except EvalError Value :=
  match f with
  | .function f =>
    match f.construct? with
    | some make => make args
    | none => .error (.notConstructor callee.describe)
  | _ => .error (.notConstructor callee.describe)

def Expr.isThis : Expr → Bool
  | .this => true
  | _ => false

namespace Expr

mutual

/-- Evaluates an expression. In `o[k]` as a value, `k` is evaluated before `o`; as a callee, `o` is
evaluated first. -/
def eval : Expr → Eval Value
  | .literal l => pure l.value
  | .name id => Eval.lookup id
  | .this => Eval.read Environment.thisValue
  | .array items => do return .array (← evalAll items)
  | .object fields => do return .object (Dict.ofList (← evalFields fields))
  | .member .this property => Eval.read (·.thisProperty property)
  | .member base property => do
    let receiver ← eval base
    Eval.ofExcept (receiver.readProperty property)
  | .index .this key => do
    let key ← eval key
    Eval.read (·.thisProperty key.text)
  | .index base key => do
    let key ← eval key
    let receiver ← eval base
    Eval.ofExcept (receiver.readProperty key.text)
  | .call (.member base property) args =>
    if base.isThis then do
      let f ← Eval.read (·.thisProperty property)
      let args ← evalAll args
      Eval.ofExcept (f.callAs (.member base property) args)
    else do
      let receiver ← eval base
      if receiver.isNullish then Eval.fail (.cannotRead receiver property)
      else
        let args ← evalAll args
        Eval.ofExcept (receiver.callProperty (.member base property) property args)
  | .call (.index base key) args =>
    if base.isThis then do
      let name ← eval key
      let f ← Eval.read (·.thisProperty name.text)
      let args ← evalAll args
      Eval.ofExcept (f.callAs (.index base key) args)
    else do
      let receiver ← eval base
      let name ← eval key
      if receiver.isNullish then Eval.fail (.cannotRead receiver name.text)
      else
        let args ← evalAll args
        Eval.ofExcept (receiver.callProperty (.index base key) name.text args)
  | .call callee args => do
    let f ← eval callee
    let args ← evalAll args
    Eval.ofExcept (f.callAs callee args)
  | .construct callee args => do
    let f ← eval callee
    let args ← evalAll args
    Eval.ofExcept (f.constructAs callee args)
  | .unary .typeof (.name id) =>
    Eval.read fun env => .string (((env.lookup? id).map Value.typeName).getD "undefined")
  | .unary op operand => do return op.apply (← eval operand)
  | .binary op left right => do
    let v ← eval left
    if op.stopsAt v then pure v
    else
      let w ← eval right
      if op.isLazy then pure w else Eval.ofExcept (op.apply v w)
  | .conditional condition yes no => do
    if (← eval condition).isTruthy then eval yes else eval no
  | .assign target op value =>
    match op.operation? with
    | none => do
      let v ← eval value
      Eval.assign target v
      pure v
    | some operation => do
      let current ← Eval.lookup target
      let v ← Eval.ofExcept (operation.apply current (← eval value))
      Eval.assign target v
      pure v

/-- Evaluates expressions from the first to the last. -/
def evalAll : List Expr → Eval (List Value)
  | [] => pure []
  | e :: rest => do return (← eval e) :: (← evalAll rest)

/-- Evaluates the fields of an object from the first to the last. -/
def evalFields : List (String × Expr) → Eval (List (String × Value))
  | [] => pure []
  | (key, e) :: rest => do return (key, ← eval e) :: (← evalFields rest)

end

end Expr

end Reckoner
