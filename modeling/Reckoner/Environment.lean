import Reckoner.Library.Call
import Reckoner.Syntax

namespace Reckoner

/-- A declared name of a calculation. -/
structure Binding where
  value : Value
  isConstant : Bool

/-- The results and the error message that a run starts with. -/
structure Template where
  results : Dict Value
  error : String

/-- The results of all names are `null` at first. -/
def Template.ofNames (names : List String) : Template where
  results := Dict.ofList (names.map (·, .null))
  error := ""

/-- What a run of calculations can see and change. The innermost of the scopes comes first. -/
structure Environment where
  scopes : List (Dict Binding)
  siblings : Dict Value
  results : Dict Value
  error : String
  state : State
  builtins : Bool

/-- The environment of a run that calculates the given names. -/
def Template.instantiate (t : Template) (names : List String) (state : State) (builtins : Bool) :
    Environment where
  scopes := []
  siblings := Dict.ofList (names.map (·, .undefined))
  results := t.results
  error := t.error
  state := state
  builtins := builtins

namespace Environment

/-- The name under which calculations see the results and the error message. -/
def globalName : String := "_global"

/-- The binding of a name in the innermost scope that has one. -/
def local? (env : Environment) (name : String) : Option Binding :=
  env.scopes.findSome? (·.find? name)

/-- A value of the state, or else a built-in. -/
def global? (env : Environment) (name : String) : Option Value :=
  match env.state.find? name with
  | some v => some v
  | none => if env.builtins then globals.find? name else none

def thisValue (env : Environment) : Value := .object env.state

/-- The property of `this`: a value of the state, or else a built-in. -/
def thisProperty (env : Environment) (name : String) : Value := (env.global? name).getD .undefined

/-- The value of `_global`. -/
def globalValue (env : Environment) : Value :=
  .object [("calculations", .object env.results), ("error", .string env.error)]

/-- The value of a name: in the scopes, among the siblings, `_global`, in the state, and among the
built-ins, in this order. -/
def lookup? (env : Environment) (name : String) : Option Value :=
  match env.local? name with
  | some binding => some binding.value
  | none =>
    match env.siblings.find? name with
    | some v => some v
    | none => if name = globalName then some env.globalValue else env.global? name

/-- Sets a name in the innermost scope that has it; none if no scope has it. -/
def assignLocal (name : String) (value : Value) :
    List (Dict Binding) → Option (Except EvalError (List (Dict Binding)))
  | [] => none
  | scope :: rest =>
    match scope.find? name with
    | some binding =>
      if binding.isConstant then some (.error .constantAssignment)
      else some (.ok (scope.insert name ⟨value, false⟩ :: rest))
    | none => (assignLocal name value rest).map fun result => result.map (scope :: ·)

/-- Sets the value of a name that has one. Neither constants nor `_global` nor built-ins can be
set. -/
def assign (env : Environment) (name : String) (value : Value) : Except EvalError Environment :=
  match assignLocal name value env.scopes with
  | some result => result.map fun scopes => { env with scopes }
  | none =>
    if env.siblings.contains name then
      .ok { env with siblings := env.siblings.insert name value }
    else if env.state.contains name then .ok { env with state := env.state.insert name value }
    else if name = globalName || (env.builtins && globals.contains name) then
      .error (.readOnly name)
    else .error (.notDefined name)

/-- Changes the outermost scope, if there is one. -/
def modifyOutermost (f : Dict Binding → Dict Binding) : List (Dict Binding) → List (Dict Binding)
  | [] => []
  | [scope] => [f scope]
  | scope :: rest => scope :: modifyOutermost f rest

/-- Changes the innermost scope, if there is one. -/
def modifyInnermost (f : Dict Binding → Dict Binding) : List (Dict Binding) → List (Dict Binding)
  | [] => []
  | scope :: rest => f scope :: rest

/-- Declares a name in the innermost scope, or with `var` in the outermost one. A `var` without a
value leaves a name alone that is there already. -/
def declare (env : Environment) (kind : DeclarationKind) (name : String) (value : Option Value) :
    Environment :=
  let enter (scope : Dict Binding) : Dict Binding :=
    scope.insert name ⟨value.getD .undefined, kind = .constK⟩
  match kind with
  | .varK =>
    let enter (scope : Dict Binding) : Dict Binding :=
      if value.isNone && scope.contains name then scope else enter scope
    { env with scopes := modifyOutermost enter env.scopes }
  | _ => { env with scopes := modifyInnermost enter env.scopes }

/-- Starts a calculation with one empty scope. -/
def enter (env : Environment) : Environment := { env with scopes := [[]] }

/-- Leaves a calculation and all its scopes. -/
def exit (env : Environment) : Environment := { env with scopes := [] }

def pushScope (env : Environment) : Environment := { env with scopes := [] :: env.scopes }

/-- Drops the innermost scope, except the last one. -/
def popScope (env : Environment) : Environment :=
  match env.scopes with
  | _ :: scope :: rest => { env with scopes := scope :: rest }
  | _ => env

def setSibling (env : Environment) (name : String) (value : Value) : Environment :=
  { env with siblings := env.siblings.insert name value }

def setResult (env : Environment) (name : String) (value : Value) : Environment :=
  { env with results := env.results.insert name value }

def setError (env : Environment) (message : String) : Environment := { env with error := message }

end Environment

end Reckoner
