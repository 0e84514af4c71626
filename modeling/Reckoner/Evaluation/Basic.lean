import Reckoner.Environment
import Reckoner.Evaluation.Error

namespace Reckoner

/-- A computation in an environment. What it has changed stays changed when it fails. -/
def Eval (α : Type) := Environment → Except EvalError α × Environment

namespace Eval

variable {α β : Type}

instance : Monad Eval where
  pure a := fun env => (.ok a, env)
  bind x f := fun env =>
    match x env with
    | (.ok a, env) => f a env
    | (.error e, env) => (.error e, env)

/-- Something read off the environment. -/
def read (f : Environment → α) : Eval α := fun env => (.ok (f env), env)

/-- Changes the environment. -/
def change (f : Environment → Environment) : Eval Unit := fun env => (.ok (), f env)

def fail (e : EvalError) : Eval α := fun env => (.error e, env)

/-- A result that does not depend on the environment. -/
def ofExcept (result : Except EvalError α) : Eval α := fun env => (result, env)

/-- The value of a name. -/
def lookup (name : String) : Eval Value := fun env =>
  match env.lookup? name with
  | some v => (.ok v, env)
  | none => (.error (.notDefined name), env)

/-- Sets the value of a name. -/
def assign (name : String) (value : Value) : Eval Unit := fun env =>
  match env.assign name value with
  | .ok env => (.ok (), env)
  | .error e => (.error e, env)

/-- Runs in a scope of its own, which is dropped also on failure. -/
def inScope (x : Eval α) : Eval α := fun env =>
  let (result, env) := x env.pushScope
  (result, env.popScope)

end Eval

end Reckoner
