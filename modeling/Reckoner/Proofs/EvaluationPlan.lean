import Reckoner.Evaluation.Expression

namespace Reckoner

/-- What is left to do of an expression: to give its outcome, to assign its value to a name, to read
something off the environment, or to have one of its parts evaluated and to go on with the value. A plan
changes nothing but by its parts and by the assignment at its end. -/
inductive Plan where
  | give (outcome : Except EvalError Value)
  | store (target : String) (value : Value)
  | read (reading : Environment → Except EvalError Value) (next : Value → Plan)
  | evaluate (part : Expr) (next : Value → Plan)

namespace Plan

/-- Has parts evaluated from the first to the last. -/
def all : List Expr → (List Value → Plan) → Plan
  | [], next => next []
  | part :: rest, next => .evaluate part fun v => all rest fun values => next (v :: values)

/-- A plan that is carried out from an environment, with the parts that are evaluated on the way. Each part
is evaluated in the environment that the one before it has left. The failure of a part is the outcome, in
the environment that this part has left. -/
inductive Runs : Plan → Environment → List Expr → Except EvalError Value × Environment → Prop
  | give {outcome env} : Runs (.give outcome) env [] (outcome, env)
  | stored {target value env after} : Eval.assign target value env = (.ok (), after) →
      Runs (.store target value) env [] (.ok value, after)
  | refused {target value env e after} : Eval.assign target value env = (.error e, after) →
      Runs (.store target value) env [] (.error e, after)
  | found {reading next env v evaluated outcome} : reading env = .ok v → Runs (next v) env evaluated outcome →
      Runs (.read reading next) env evaluated outcome
  | missing {reading next env e} : reading env = .error e → Runs (.read reading next) env [] (.error e, env)
  | goesOn {part next env v mid evaluated outcome} : part.eval env = (.ok v, mid) →
      Runs (next v) mid evaluated outcome → Runs (.evaluate part next) env (part :: evaluated) outcome
  | fails {part next env e after} : part.eval env = (.error e, after) →
      Runs (.evaluate part next) env [part] (.error e, after)

theorem Runs.unique {plan : Plan} {env : Environment} {first second : List Expr}
    {outcome other : Except EvalError Value × Environment} (run : plan.Runs env first outcome)
    (again : plan.Runs env second other) : second = first ∧ other = outcome := by
  induction run generalizing second other with
  | give => cases again; exact ⟨rfl, rfl⟩
  | stored assigned | refused assigned => cases again <;> simp_all
  | found here _ ih =>
    cases again with
    | found there rest => cases here.symm.trans there; exact ih rest
    | missing there => cases here.symm.trans there
  | missing here =>
    cases again with
    | found there _ => cases here.symm.trans there
    | missing there => cases here.symm.trans there; exact ⟨rfl, rfl⟩
  | goesOn here _ ih =>
    cases again with
    | goesOn there rest =>
      cases here.symm.trans there
      obtain ⟨parts, same⟩ := ih rest
      exact ⟨congrArg _ parts, same⟩
    | fails there => cases here.symm.trans there
  | fails here =>
    cases again with
    | goesOn there _ => cases here.symm.trans there
    | fails there => cases here.symm.trans there; exact ⟨rfl, rfl⟩

/-- The parts are evaluated from the first to the last, each in the environment that the one before it has
left. The failure of a part is the outcome, and no part comes behind it. Behind the last part there can only
be an assignment. -/
def InOrder (outcome : Except EvalError Value × Environment) : Environment → List Expr → Prop
  | env, [] => outcome.2 = env ∨ ∃ target value, outcome.2 = (Eval.assign target value env).2
  | env, part :: rest =>
    match part.eval env with
    | (.ok _, mid) => InOrder outcome mid rest
    | (.error e, after) => rest = [] ∧ outcome = (.error e, after)

theorem Runs.inOrder {plan : Plan} {env : Environment} {evaluated : List Expr}
    {outcome : Except EvalError Value × Environment} (run : plan.Runs env evaluated outcome) :
    InOrder outcome env evaluated := by
  induction run with
  | give | missing => exact .inl rfl
  | stored assigned | refused assigned => exact .inr ⟨_, _, by rw [assigned]⟩
  | found _ _ ih => exact ih
  | goesOn here _ ih =>
    unfold InOrder
    rw [here]
    exact ih
  | fails here =>
    unfold InOrder
    rw [here]
    exact ⟨rfl, rfl⟩

/-- Calls the property of a receiver. There is none to call where the receiver has no properties, and then
the arguments are left alone. -/
def callOn (receiver : Value) (callee : Expr) (key : String) (args : List Expr) : Plan :=
  if receiver.isNullish then .give (.error (.cannotRead receiver key))
  else all args fun values => .give (receiver.callProperty callee key values)

end Plan

namespace Expr

/-- The direct parts of an expression in the order in which they are written. The callee of a call on a
property counts as the object and, if it is computed, the key. -/
def parts : Expr → List Expr
  | .literal _ | .name _ | .this => []
  | .array items => items
  | .object fields => fields.map (·.2)
  | .member base _ => [base]
  | .index base key => [base, key]
  | .call (.member base _) args => base :: args
  | .call (.index base key) args => base :: key :: args
  | .call callee args => callee :: args
  | .construct callee args => callee :: args
  | .unary _ operand => [operand]
  | .binary _ left right => [left, right]
  | .conditional condition yes no => [condition, yes, no]
  | .assign _ _ value => [value]

/-- The evaluation of an expression from left to right. -/
def plan : Expr → Plan
  | .literal l => .give (.ok l.value)
  | .name id => .read (fun env => (Eval.lookup id env).1) fun v => .give (.ok v)
  | .this => .read (fun env => .ok env.thisValue) fun v => .give (.ok v)
  | .array items => .all items fun values => .give (.ok (.array values))
  | .object fields => .all (fields.map (·.2)) fun values =>
    .give (.ok (.object (Dict.ofList ((fields.map (·.1)).zip values))))
  | .member base property =>
    if base.isThis then .read (fun env => .ok (env.thisProperty property)) fun v => .give (.ok v)
    else .evaluate base fun receiver => .give (receiver.readProperty property)
  | .index base key =>
    if base.isThis then
      .evaluate key fun name => .read (fun env => .ok (env.thisProperty name.text)) fun v => .give (.ok v)
    else .evaluate base fun receiver => .evaluate key fun name => .give (receiver.readProperty name.text)
  | .call (.member base property) args =>
    if base.isThis then
      .read (fun env => .ok (env.thisProperty property)) fun f =>
        .all args fun values => .give (f.callAs (.member base property) values)
    else .evaluate base fun receiver => .callOn receiver (.member base property) property args
  | .call (.index base key) args =>
    if base.isThis then
      .evaluate key fun name => .read (fun env => .ok (env.thisProperty name.text)) fun f =>
        .all args fun values => .give (f.callAs (.index base key) values)
    else
      .evaluate base fun receiver => .evaluate key fun name =>
        .callOn receiver (.index base key) name.text args
  | .call callee args => .evaluate callee fun f => .all args fun values => .give (f.callAs callee values)
  | .construct callee args =>
    .evaluate callee fun f => .all args fun values => .give (f.constructAs callee values)
  | .unary .typeof (.name id) =>
    .read (fun env => .ok (.string (((env.lookup? id).map Value.typeName).getD "undefined"))) fun v =>
      .give (.ok v)
  | .unary op operand => .evaluate operand fun v => .give (.ok (op.apply v))
  | .binary op left right => .evaluate left fun v =>
    if op.stopsAt v then .give (.ok v)
    else .evaluate right fun w => .give (if op.isLazy then .ok w else op.apply v w)
  | .conditional condition yes no => .evaluate condition fun v =>
    .evaluate (if v.isTruthy then yes else no) fun w => .give (.ok w)
  | .assign target op value =>
    match op.operation? with
    | none => .evaluate value fun v => .store target v
    | some operation =>
      .read (fun env => (Eval.lookup target env).1) fun current => .evaluate value fun v =>
        match operation.apply current v with
        | .ok w => .store target w
        | .error e => .give (.error e)

end Expr

end Reckoner
